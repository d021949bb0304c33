import ShardedKvStore.Shard.CleanRuns

/-!
# Write histories

The history of a run lists its acknowledged writes and the writes a crash
interrupted, in order.  A key may have the effect of its last acknowledged write
or of a write interrupted after that one, and no other value; this holds of the
agreed log and of every database that has committed it, their uncommitted tails
included.  Without crashes the agreed log is the history.
-/

namespace ShardedKvStore

open Foundation
open SqliteStore

/-- A put or an erase, as it was requested. -/
structure Write where
  command : Bytes
  key : Bytes
  value : Bytes
  deriving DecidableEq, Repr

/-- The value the write leaves, or none. -/
def Write.effect (write : Write) : Option Bytes :=
  if write.command = putCommand then some write.value else none

/-- The row records the write. -/
def Write.Recorded (write : Write) (row : LogEntry) : Prop :=
  Shard.Records write.command write.key write.value row

theorem Write.Recorded.assignment_eq
    {write : Write} {row : LogEntry} (recorded : write.Recorded row) :
    row.assignment = (cString write.key, write.effect) := by
  obtain ⟨command, key, value⟩ := recorded
  simp only [LogEntry.assignment, Write.effect, command, key, value,
    cString_cString]

/-- The write of an operation. -/
def Operation.write : Operation → Option Write
  | .put key value => some ⟨putCommand, key, value⟩
  | .erase key => some ⟨deleteCommand, key, []⟩
  | _ => none

theorem Operation.row_iff {operation : Operation} {row : LogEntry} :
    operation.Row row ↔
      ∃ write, operation.write = some write ∧ write.Recorded row := by
  cases operation with
  | put =>
      simp [Operation.Row, Operation.write, Write.Recorded]
  | erase =>
      simp [Operation.Row, Operation.write, Write.Recorded]
  | get =>
      simp [Operation.Row, Operation.write, Shard.NoRow]
  | failReplica =>
      simp [Operation.Row, Operation.write, Shard.NoRow]
  | recoverReplica =>
      simp [Operation.Row, Operation.write, Shard.NoRow]
  | electLeader =>
      simp [Operation.Row, Operation.write, Shard.NoRow]

/-- What a run says about a write: it was acknowledged, or a crash interrupted
it. -/
inductive WriteEvent where
  | acknowledged (write : Write)
  | interrupted (write : Write)
  deriving DecidableEq, Repr

namespace WriteEvent

/-- The write of an event. -/
def write : WriteEvent → Write
  | .acknowledged write => write
  | .interrupted write => write

end WriteEvent

/-- The values a key may have after a history: the effect of its last
acknowledged write, or of a write interrupted after that.  `concerns` tells
which requested keys are the key. -/
def possibleValues
    (concerns : Bytes → Bool) (history : List WriteEvent) :
    List (Option Bytes) :=
  history.foldl
    (fun values event =>
      if concerns event.write.key then
        match event with
        | .acknowledged write => [write.effect]
        | .interrupted write => values ++ [write.effect]
      else
        values)
    [none]

section PossibleValues

variable {concerns : Bytes → Bool} {history : List WriteEvent}
  {write : Write}

theorem possibleValues_acknowledged (isKey : concerns write.key = true) :
    possibleValues concerns (history ++ [.acknowledged write]) =
      [write.effect] := by
  simp [possibleValues, WriteEvent.write, isKey]

theorem possibleValues_interrupted (isKey : concerns write.key = true) :
    possibleValues concerns (history ++ [.interrupted write]) =
      possibleValues concerns history ++ [write.effect] := by
  simp [possibleValues, WriteEvent.write, isKey]

theorem possibleValues_other
    {event : WriteEvent} (otherKey : concerns event.write.key = false) :
    possibleValues concerns (history ++ [event]) =
      possibleValues concerns history := by
  simp [possibleValues, otherKey]

end PossibleValues

/-! ## Values a key may have -/

section Allowed

variable {tested : Bytes} {values values' : List (Option Bytes)}

/-- The entries leave only allowed values in the tested key. -/
def EntriesAllowed
    (tested : Bytes) (values : List (Option Bytes))
    (entries : List LogEntry) : Prop :=
  ∀ entry ∈ entries,
    entry.assignment.1 = tested → entry.assignment.2 ∈ values

theorem replayOnto_mem
    {table : Bytes → Option Bytes} {entries : List LogEntry}
    (atFirst : table tested ∈ values)
    (allowed : EntriesAllowed tested values entries) :
    replayOnto table (entries.map LogEntry.assignment) tested ∈ values := by
  rcases replayOnto_cases table (entries.map LogEntry.assignment) tested with
    same | ⟨assignment, member, isKey, effect⟩
  · rwa [same]
  · obtain ⟨entry, inEntries, isAssignment⟩ := List.mem_map.mp member
    rw [effect, ← isAssignment]
    rw [← isAssignment] at isKey
    exact allowed entry inEntries isKey

/-- The values allowed after a row: its own effect, or those from before when it
has another key. -/
structure RowAllows
    (tested : Bytes) (values : List (Option Bytes)) (row : LogEntry)
    (values' : List (Option Bytes)) : Prop where
  sameKey : row.assignment.1 = tested → row.assignment.2 ∈ values'
  otherKey : row.assignment.1 ≠ tested → values ⊆ values'

theorem RowAllows.replayOnto_mem
    {table : Bytes → Option Bytes} {tail : List LogEntry} {row : LogEntry}
    (row_ : RowAllows tested values row values')
    (atFirst : table tested ∈ values)
    (allowed : EntriesAllowed tested values tail) :
    replayOnto table ((tail ++ [row]).map LogEntry.assignment) tested ∈
      values' := by
  rw [List.map_append]
  by_cases isKey : row.assignment.1 = tested
  · rw [← isKey]
    change replayOnto table (_ ++ [row.assignment]) _ ∈ _
    rw [replayOnto_append_self]
    exact row_.sameKey isKey
  · have other :
        ∀ assignment ∈ [row].map LogEntry.assignment,
          assignment.1 ≠ tested := by
      intro assignment member
      rw [List.map_singleton, List.mem_singleton] at member
      rwa [member]
    rw [replayOnto_append, replayOnto_of_unnamed other]
    exact row_.otherKey isKey
      (ShardedKvStore.replayOnto_mem atFirst allowed)

/-- The table and the tail of a database leave only allowed values. -/
structure Contents.Allowed
    (tested : Bytes) (values : List (Option Bytes))
    (contents : Contents) : Prop where
  table : contents.table tested ∈ values
  tail : EntriesAllowed tested values contents.tail

namespace Contents

variable {contents : Contents} {agreed : List LogEntry}

theorem Allowed.mono
    (allowed : contents.Allowed tested values)
    (wider : values ⊆ values') :
    contents.Allowed tested values' :=
  ⟨wider allowed.table, fun entry member isKey =>
    wider (allowed.tail entry member isKey)⟩

theorem Allowed.discard (allowed : contents.Allowed tested values) :
    contents.discard.Allowed tested values :=
  ⟨allowed.table, fun _ member => absurd member List.not_mem_nil⟩

theorem Allowed.tear
    (allowed : contents.Allowed tested values) {row : LogEntry}
    (newRow : EntriesAllowed tested values [row]) (progress : Nat) :
    (contents.tear row progress).Allowed tested values := by
  have both : EntriesAllowed tested values (contents.tail ++ [row]) := by
    intro entry member
    rcases List.mem_append.mp member with earlier | last
    · exact allowed.tail entry earlier
    · exact newRow entry last
  refine ⟨replayOnto_mem allowed.table ?_, both⟩
  exact fun entry member =>
    both entry (List.mem_of_mem_take member)

theorem Allowed.commit
    (allowed : contents.Allowed tested values) {row : LogEntry}
    (row_ : RowAllows tested values row values') :
    (contents.commit row).Allowed tested values' :=
  ⟨row_.replayOnto_mem allowed.table allowed.tail,
    fun _ member => absurd member List.not_mem_nil⟩

end Contents

end Allowed

namespace Shard

variable {count : Nat} {tested : Bytes}
  {values values' : List (Option Bytes)} {agreed agreed' : List LogEntry}
  {before after : Fin count → Contents}

/-- The agreed log, and every database that has committed it, leave only allowed
values. -/
structure LogAllows
    (tested : Bytes) (values : List (Option Bytes))
    (agreed : List LogEntry) (contents : Fin count → Contents) :
    Prop where
  replay : replayLog agreed tested ∈ values
  holders :
    ∀ position,
      (contents position).committed = agreed →
        (contents position).Allowed tested values

/-- A database that has the agreed log after an election. -/
theorem LogAllows.evolved
    (allows : LogAllows tested values agreed before)
    {position : Fin count} {reached : Contents}
    (evolves : Contents.Evolves agreed (before position) reached)
    (complete : reached.committed = agreed) :
    reached.Allowed tested values := by
  generalize beforeIs : before position = initial at evolves
  cases evolves with
  | kept =>
      rw [← beforeIs] at complete ⊢
      exact allows.holders position complete
  | copied =>
      exact ⟨allows.replay, fun _ member => absurd member List.not_mem_nil⟩

/-- The log after a new row, with a tail before it that a complete database
had. -/
theorem LogAllows.replay_extended
    (allows : LogAllows tested values agreed before)
    {middle : Contents} (allowed : middle.Allowed tested values)
    {row : LogEntry} (row_ : RowAllows tested values row values') :
    replayLog (agreed ++ (middle.tail ++ [row])) tested ∈ values' := by
  rw [replayLog_append]
  exact row_.replayOnto_mem allows.replay allowed.tail

/-- The rows an operation may append leave values that are allowed
afterwards. -/
structure RowsAllowed
    (tested : Bytes) (values : List (Option Bytes))
    (Row : LogEntry → Prop) (values' : List (Option Bytes)) : Prop where
  wider : values ⊆ values'
  rows : ∀ row, Row row → EntriesAllowed tested values' [row]

/-- A crash leaves only values that were allowed before it or by the row it
interrupted. -/
theorem LogAllows.touched
    (allows : LogAllows tested values agreed before)
    {Row : LogEntry → Prop} {Torn : Prop} {position : Fin count}
    {reached : Contents}
    (touched :
      Contents.Touched Row Torn agreed (before position) reached)
    (rows : RowsAllowed tested values Row values')
    (inAgreed : (before position).committed <+: agreed)
    (grows : agreed <+: agreed')
    (complete : reached.committed = agreed') :
    reached.Allowed tested values' ∧ replayLog agreed' tested ∈ values' := by
  have row_ {row : LogEntry} (isRow : Row row) :
      RowAllows tested values row values' :=
    ⟨fun isKey => rows.rows row isRow row List.mem_cons_self isKey,
      fun _ => rows.wider⟩
  -- Unless the row is committed the agreed log stays.
  have sameLog (notLonger : reached.committed <+: agreed) :
      agreed' = agreed := by
    rw [complete] at notLonger
    exact notLonger.eq_of_length_le grows.length_le
  cases touched with
  | evolved evolves =>
      rw [sameLog (evolves.prefix_agreed inAgreed)] at complete ⊢
      exact ⟨(allows.evolved evolves complete).mono rows.wider,
        rows.wider allows.replay⟩
  | torn evolves atAgreed isRow _ =>
      have allowed := (allows.evolved evolves atAgreed).mono rows.wider
      refine ⟨allowed.tear (rows.rows _ isRow) _, ?_⟩
      rw [sameLog (atAgreed ▸ List.prefix_refl _)]
      exact rows.wider allows.replay
  | committed evolves atAgreed isRow =>
      have allowed := allows.evolved evolves atAgreed
      refine ⟨allowed.commit (row_ isRow), ?_⟩
      have extended := allows.replay_extended allowed (row_ isRow)
      rw [← atAgreed] at extended
      rw [← complete]
      exact extended
  | discarded evolves atAgreed =>
      have allowed := (allows.evolved evolves atAgreed).mono rows.wider
      refine ⟨allowed.discard, ?_⟩
      rw [sameLog (atAgreed ▸ List.prefix_refl _)]
      exact rows.wider allows.replay

theorem LogAllows.crashed
    (allows : LogAllows tested values agreed before)
    {Row : LogEntry → Prop} {Torn : Prop}
    (rows : RowsAllowed tested values Row values')
    (inAgreed : ∀ position, (before position).committed <+: agreed)
    (grows : agreed <+: agreed')
    (holders :
      ∀ position,
        (after position).committed = agreed' →
          Contents.Touched Row Torn agreed (before position)
            (after position))
    (holder : ∃ position, (after position).committed = agreed') :
    LogAllows tested values' agreed' after := by
  have each (position : Fin count)
      (complete : (after position).committed = agreed') :=
    allows.touched (holders position complete) rows (inAgreed position)
      grows complete
  obtain ⟨position, complete⟩ := holder
  exact ⟨(each position complete).2, fun position complete =>
    (each position complete).1⟩

/-- A completed operation leaves only allowed values: those from before when the
agreed log stays, those its row allows when it is extended. -/
theorem LogAllows.changed
    (allows : LogAllows tested values agreed before)
    {Row : LogEntry → Prop}
    (changes : Changes Row agreed before after agreed')
    (inAgreed : ∀ position, (before position).committed <+: agreed)
    (holder : ∃ position, (after position).committed = agreed')
    (unchanged : agreed' = agreed → values ⊆ values')
    (extended :
      agreed' ≠ agreed →
        ∀ row, Row row → RowAllows tested values row values') :
    LogAllows tested values' agreed' after := by
  cases changes with
  | kept each =>
      refine ⟨unchanged rfl allows.replay, fun position complete => ?_⟩
      obtain ⟨middle, evolves, same | ⟨atAgreed, discards⟩⟩ :=
        each position
      · rw [same] at complete ⊢
        exact (allows.evolved evolves complete).mono (unchanged rfl)
      · rw [discards]
        exact ((allows.evolved evolves atAgreed).mono
          (unchanged rfl)).discard
  | committed row tail isRow each =>
      have longer : agreed ++ (tail ++ [row]) ≠ agreed := by
        simp
      have row_ := extended longer row isRow
      -- Only a database that committed the row has the longer log.
      have committed (position : Fin count)
          (complete :
            (after position).committed = agreed ++ (tail ++ [row])) :
          ∃ middle : Contents,
            middle.Allowed tested values ∧ middle.tail = tail ∧
              after position = middle.commit row := by
        obtain ⟨middle, evolves, same | ⟨atAgreed, sameTail, commits⟩⟩ :=
          each position
        · exfalso
          rw [same] at complete
          have length :=
            (evolves.prefix_agreed (inAgreed position)).length_le
          rw [complete] at length
          simp at length
        · exact ⟨middle, allows.evolved evolves atAgreed, sameTail,
            commits⟩
      refine ⟨?_, fun position complete => ?_⟩
      · obtain ⟨position, complete⟩ := holder
        obtain ⟨middle, allowed, sameTail, _⟩ :=
          committed position complete
        rw [← sameTail]
        exact allows.replay_extended allowed row_
      · obtain ⟨middle, allowed, _, commits⟩ :=
          committed position complete
        rw [commits]
        exact allowed.commit row_

/-! ## The history of a run -/

/-- What an answer says about a write. -/
def acknowledgedWrite
    (answer : Except KvError Response) (write : Option Write) :
    Option WriteEvent :=
  match answer with
  | .ok (.result result) =>
      if result.ok = true then write.map .acknowledged else none
  | _ => none

/-- What a step says about a write. -/
def ShardLabel.event : ShardLabel → Option WriteEvent
  | .call operation answer => acknowledgedWrite answer operation.write
  | .callCrash operation _ => operation.write.map .interrupted
  | _ => none

/-- The history of a run. -/
def writeHistory (labels : List ShardLabel) : List WriteEvent :=
  labels.filterMap ShardLabel.event

theorem writeHistory_concat (labels : List ShardLabel) (label : ShardLabel) :
    writeHistory (labels ++ [label]) =
      writeHistory labels ++ label.event.toList :=
  filterMap_concat ShardLabel.event labels label

private theorem WriteAnswer.event_spec
    {shard : Shard count} {command key value : Bytes}
    {result : OperationResult}
    (answer :
      WriteAnswer command key value shard agreed result agreed') :
    (agreed' = agreed ∧ result.ok = false) ∨
      ∃ leader row,
        shard.leading = some leader ∧
          Write.Recorded ⟨command, key, value⟩ row ∧
          agreed' =
            agreed ++
              ((shard.replicas leader).store.uncommitted ++ [row]) ∧
          result.ok = true := by
  cases answer with
  | stored _ isLeading records isOk _ =>
      exact Or.inr ⟨_, _, isLeading, records, rfl, isOk⟩
  | rejected _ failed _ =>
      exact Or.inl ⟨rfl, failed⟩

/-- An acknowledged write adds its row to the agreed log, after the tail of the
leading replica; nothing else changes the agreed log. -/
theorem Answers.event_spec
    {shard : Shard count} {operation : Operation} {response : Response}
    (answers : Answers shard agreed operation response agreed') :
    (agreed' = agreed ∧
        ShardLabel.event (.call operation (.ok response)) = none) ∨
      ∃ leader write row,
        shard.leading = some leader ∧ operation.write = some write ∧
          write.Recorded row ∧
          agreed' =
            agreed ++
              ((shard.replicas leader).store.uncommitted ++ [row]) ∧
          ShardLabel.event (.call operation (.ok response)) =
            some (.acknowledged write) := by
  cases answers with
  | put answer =>
      rcases WriteAnswer.event_spec answer with
        ⟨same, failed⟩ | ⟨leader, row, isLeading, recorded, added, isOk⟩
      · exact Or.inl ⟨same, by simp [ShardLabel.event, acknowledgedWrite, failed]⟩
      · exact Or.inr ⟨leader, _, row, isLeading, rfl, recorded, added,
          by simp [ShardLabel.event, acknowledgedWrite, isOk,
            Operation.write]⟩
  | erase answer =>
      rcases WriteAnswer.event_spec answer with
        ⟨same, failed⟩ | ⟨leader, row, isLeading, recorded, added, isOk⟩
      · exact Or.inl ⟨same, by simp [ShardLabel.event, acknowledgedWrite, failed]⟩
      · exact Or.inr ⟨leader, _, row, isLeading, rfl, recorded, added,
          by simp [ShardLabel.event, acknowledgedWrite, isOk,
            Operation.write]⟩
  | get =>
      exact Or.inl ⟨rfl, by
        simp [ShardLabel.event, acknowledgedWrite, Operation.write]⟩
  | failReplica =>
      exact Or.inl ⟨rfl, rfl⟩
  | recoverReplica =>
      exact Or.inl ⟨rfl, rfl⟩
  | electLeader =>
      exact Or.inl ⟨rfl, rfl⟩

/-- The requested keys that are stored under the tested one. -/
def storedAs (tested key : Bytes) : Bool :=
  cString key = tested

theorem rowAllows_acknowledged
    {history : List WriteEvent} {write : Write} {row : LogEntry}
    (recorded : write.Recorded row) :
    RowAllows tested (possibleValues (storedAs tested) history) row
      (possibleValues (storedAs tested)
        (history ++ [.acknowledged write])) := by
  constructor
  · intro isKey
    rw [recorded.assignment_eq] at isKey ⊢
    rw [possibleValues_acknowledged (decide_eq_true isKey)]
    exact List.mem_singleton_self _
  · intro otherKey
    rw [recorded.assignment_eq] at otherKey
    rw [possibleValues_other (decide_eq_false otherKey)]
    exact List.Subset.refl _

theorem rowsAllowed_interrupted
    (history : List WriteEvent) (operation : Operation) :
    RowsAllowed tested (possibleValues (storedAs tested) history)
      operation.Row
      (possibleValues (storedAs tested)
        (history ++ (operation.write.map .interrupted).toList)) := by
  cases isWrite : operation.write with
  | none =>
      refine ⟨by simp, fun row isRow => ?_⟩
      obtain ⟨write, hasWrite, _⟩ := Operation.row_iff.mp isRow
      rw [isWrite] at hasWrite
      cases hasWrite
  | some write =>
      change RowsAllowed _ _ _
        (possibleValues _ (history ++ [.interrupted write]))
      by_cases isKey : cString write.key = tested
      · rw [possibleValues_interrupted (decide_eq_true isKey)]
        refine ⟨List.subset_append_left _ _, fun row isRow => ?_⟩
        obtain ⟨_, hasWrite, recorded⟩ := Operation.row_iff.mp isRow
        obtain rfl := Option.some.inj (isWrite.symm.trans hasWrite)
        intro entry member _
        rw [List.mem_singleton.mp member, recorded.assignment_eq]
        exact List.mem_append_right _ (List.mem_singleton_self _)
      · rw [possibleValues_other (decide_eq_false isKey)]
        refine ⟨List.Subset.refl _, fun row isRow => ?_⟩
        obtain ⟨_, hasWrite, recorded⟩ := Operation.row_iff.mp isRow
        obtain rfl := Option.some.inj (isWrite.symm.trans hasWrite)
        intro entry member isTested
        rw [List.mem_singleton.mp member, recorded.assignment_eq]
          at isTested
        exact absurd isTested isKey

/-- Every step keeps to the values its history allows. -/
theorem Transition.logAllows
    {shardId : Nat} {bound bound' : Int} {state next : ShardState count}
    {label : ShardLabel} {history : List WriteEvent}
    (transition : Transition agreed state label agreed' next)
    (agrees : Agrees shardId agreed bound state)
    (agrees' : Agrees shardId agreed' bound' next)
    (allows :
      LogAllows tested (possibleValues (storedAs tested) history) agreed
        state.contents) :
    LogAllows tested
      (possibleValues (storedAs tested)
        (history ++ label.event.toList))
      agreed' next.contents := by
  have inAgreed := agrees.committed_prefix
  have holder : ∃ position, (next.contents position).committed = agreed' :=
    agrees'.durable.files.holder
  cases transition with
  | start started =>
      simp only [ShardLabel.event, Option.toList_none, List.append_nil]
      exact ⟨allows.replay, fun position complete =>
        allows.evolved (started.evolves position) complete⟩
  | startCrash grows holders =>
      simp only [ShardLabel.event, Option.toList_none, List.append_nil]
      exact allows.crashed
        ⟨List.Subset.refl _, fun _ noRow => absurd noRow id⟩
        inAgreed grows holders holder
  | call completed answers =>
      rcases answers.event_spec with
        ⟨same, noEvent⟩ | ⟨_, write, row, _, isWrite, _, added, event⟩
      · rw [noEvent, Option.toList_none, List.append_nil]
        exact allows.changed completed.changes inAgreed holder
          (fun _ => List.Subset.refl _) (fun longer => absurd same longer)
      · rw [event]
        refine allows.changed completed.changes inAgreed holder ?_ ?_
        · intro same
          rw [added] at same
          simp at same
        · intro _ row' isRow
          obtain ⟨_, hasWrite, recorded⟩ := Operation.row_iff.mp isRow
          obtain rfl := Option.some.inj (isWrite.symm.trans hasWrite)
          exact rowAllows_acknowledged recorded
  | callCrash grows holders =>
      exact allows.crashed (rowsAllowed_interrupted history _) inAgreed
        grows holders holder
  | stop =>
      simp only [ShardLabel.event, Option.toList_none, List.append_nil]
      exact allows

/-- The values of a key in every run of a shard. -/
theorem shardRun_logAllows
    {shardId : Nat} {labels : List ShardLabel} {state : ShardState count}
    (positive : 0 < count) (run : ShardRun shardId labels state)
    (tested : Bytes) :
    ∃ agreed bound,
      Agrees shardId agreed bound state ∧
        LogAllows tested
          (possibleValues (storedAs tested) (writeHistory labels)) agreed
          state.contents := by
  refine shardRun_agrees
    (fun labels agreed state =>
      LogAllows tested
        (possibleValues (storedAs tested) (writeHistory labels)) agreed
        state.contents)
    positive ?_ ?_ run
  · refine ⟨List.mem_singleton_self _, fun _ _ => ⟨?_, ?_⟩⟩
    · exact List.mem_singleton_self _
    · exact fun _ member => absurd member List.not_mem_nil
  · intro _ _ _ _ _ _ _ _ agrees allows _ transition agrees'
    rw [writeHistory_concat]
    exact transition.logAllows agrees agrees' allows

/-! ## Reads -/

/-- The replica that leads an operation has committed the agreed log. -/
theorem Operational.leading_complete
    {bound : Int} {shard : Shard count} {elections : List Int}
    (operational : Operational agreed bound shard)
    (agree : DurableAgree agreed bound ⟨shard.files, elections⟩)
    (available : shard.Available) {leader : Fin count}
    (isLeading : shard.leading = some leader) :
    (shard.contents leader).committed = agreed := by
  obtain ⟨_, settled, elected, _, _, prepared⟩ :=
    operational.prepared agree available
  obtain rfl :=
    Option.some.inj (isLeading.symm.trans prepared.isLeading)
  rw [← prepared.sameLeader]
  exact prepared.leads.complete

/-- A served read returns a value its history allows. -/
theorem get_possible
    {shardId : Nat} {labels : List ShardLabel} {shard : Shard count}
    {elections : List Int} (positive : 0 < count)
    (run : ShardRun shardId labels (.running shard elections))
    {key : Bytes} {result : OperationResult}
    (returned : (get key shard).result = .ok result) :
    (result.status = 200 →
      some result.value ∈
        possibleValues (storedAs (cString key)) (writeHistory labels)) ∧
      (result.status = 404 →
        none ∈
          possibleValues (storedAs (cString key))
            (writeHistory labels)) := by
  obtain ⟨agreed, bound, ⟨operational, agree, _⟩, allows⟩ :=
    shardRun_logAllows positive run (cString key)
  have reads {leader : Fin count} (available : shard.Available)
      (isLeading : shard.leading = some leader) :
      (shard.replicas leader).store.kv (cString key) ∈
        possibleValues (storedAs (cString key)) (writeHistory labels) := by
    rw [← operational.redone_eq leader]
    exact (allows.holders leader
      (operational.leading_complete agree available isLeading)).table
  obtain ⟨answer, _, _, _, _, runs, _, _, answers⟩ :=
    operational.get_spec agree key
  rw [runs] at returned
  cases returned
  cases answers with
  | unavailable _ _ status =>
      rw [status]
      exact ⟨(by cases ·), (by cases ·)⟩
  | missing available isLeading nothing _ status =>
      rw [status]
      refine ⟨(by cases ·), fun _ => ?_⟩
      rw [← nothing]
      exact reads available isLeading
  | found available isLeading found _ status value =>
      rw [status, value]
      refine ⟨fun _ => ?_, (by cases ·)⟩
      rw [← found]
      exact reads available isLeading

/-! ## The log of a run without crashes -/

/-- The event is the acknowledgement of the write the row records. -/
def WriteEvent.LoggedAs (event : WriteEvent) (row : LogEntry) : Prop :=
  ∃ write, event = .acknowledged write ∧ write.Recorded row

theorem Answers.logged
    {shard : Shard count} {operation : Operation} {response : Response}
    {history : List WriteEvent}
    (answers : Answers shard agreed operation response agreed')
    (whole : ∀ position, (shard.contents position).Whole)
    (logged : List.Forall₂ WriteEvent.LoggedAs history agreed) :
    List.Forall₂ WriteEvent.LoggedAs
      (history ++
        (ShardLabel.event (.call operation (.ok response))).toList)
      agreed' := by
  rcases answers.event_spec with
    ⟨same, noEvent⟩ | ⟨leader, write, row, _, _, recorded, added, event⟩
  · rw [noEvent, same]
    simpa using logged
  · have noTail : (shard.replicas leader).store.uncommitted = [] :=
      (whole leader).tail
    rw [event, added, noTail]
    exact List.rel_append logged (.cons ⟨write, rfl, recorded⟩ .nil)

/-- Without crashes the agreed log is the history. -/
theorem CleanRun.log_eq_history
    {shardId : Nat} {labels : List ShardLabel} {state : ShardState count}
    (positive : 0 < count) (cleanRun : CleanRun shardId labels state) :
    ∃ agreed bound,
      CleanState shardId agreed bound state ∧
        List.Forall₂ WriteEvent.LoggedAs (writeHistory labels) agreed := by
  let Holds (labels : List ShardLabel) (agreed : List LogEntry)
      (state : ShardState count) : Prop :=
    (∀ label ∈ labels, label.Clean) →
      (∀ position, (state.contents position).Whole) ∧
        List.Forall₂ WriteEvent.LoggedAs (writeHistory labels) agreed
  have rule :
      ∃ agreed bound,
        Agrees shardId agreed bound state ∧ Holds labels agreed state := by
    refine shardRun_agrees Holds positive ?_ ?_ cleanRun.run
    · exact fun _ => ⟨fun _ => ⟨rfl, rfl⟩, .nil⟩
    · intro labels _ _ state label _ _ _ _ holds _ transition _ clean
      obtain ⟨earlierClean, lastClean⟩ := forall_mem_concat_iff.mp clean
      obtain ⟨whole, logged⟩ := holds earlierClean
      obtain ⟨_, changes⟩ := transition.changes lastClean
      refine ⟨changes.whole whole, ?_⟩
      rw [writeHistory_concat]
      cases transition with
      | start _ =>
          simpa [ShardLabel.event] using logged
      | startCrash =>
          exact absurd lastClean id
      | call completed answers =>
          exact answers.logged whole logged
      | callCrash =>
          exact absurd lastClean id
      | stop =>
          simpa [ShardLabel.event] using logged
  obtain ⟨agreed, bound, agrees, holds⟩ := rule
  obtain ⟨whole, logged⟩ := holds cleanRun.clean
  exact ⟨agreed, bound, ⟨agrees, whole⟩, logged⟩

end Shard

end ShardedKvStore

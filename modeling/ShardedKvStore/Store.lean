import ShardedKvStore.Common
import ShardedKvStore.Foundation.OrderedTable
import ShardedKvStore.Foundation.Replay

/-!
# The SQLite store of one replica

`SqliteStore` holds the three tables of one database.  The `updated_at` column
of `kv` is never read and is left out.  The four rows of the `meta` table hold
numbers written by `std::to_string` and read back by `std::stoll`, and one
identifier; they are kept as values of their own types.

`Statement` lists the writing statements, `clear_all`'s transaction among them.
Each one is atomic and durable, and it is assumed to succeed.  In particular a
bound BLOB has its whole length: the gateway admits at most one MiB, and the
largest SQLite BLOB is shorter than `2^31` bytes, where the cast of the length
to `int` starts to lose it.
-/

namespace ShardedKvStore

open Foundation

/-- `LogEntry`. -/
structure LogEntry where
  index : Int := 0
  term : Int := 0
  command : Bytes := []
  key : Bytes := []
  value : Bytes := []
  deriving DecidableEq, Repr

/-- The command text `PUT`. -/
def putCommand : Bytes :=
  bytes "PUT"

/-- The command text `DELETE`. -/
def deleteCommand : Bytes :=
  bytes "DELETE"

namespace LogEntry

/-- The row an entry becomes in `raft_log`: the TEXT columns are bound through
`c_str()`. -/
def stored (entry : LogEntry) : LogEntry :=
  { entry with
    command := cString entry.command
    key := cString entry.key }

/-- The two commands that `apply_entry` knows. -/
def Known (entry : LogEntry) : Prop :=
  entry.command = putCommand ∨ entry.command = deleteCommand

instance (entry : LogEntry) : Decidable entry.Known :=
  inferInstanceAs (Decidable (_ ∨ _))

/-- What a known command does to the `kv` table. -/
def assignment (entry : LogEntry) : Assignment Bytes Bytes :=
  (cString entry.key,
    if entry.command = putCommand then some entry.value else none)

end LogEntry

/-- The rows of the `meta` table. -/
structure MetaTable where
  currentTerm : Option Int := none
  votedFor : Option Bytes := none
  commitIndex : Option Int := none
  lastApplied : Option Int := none
  deriving DecidableEq, Repr

/-- One row written by `set_meta`. -/
inductive MetaRow where
  | currentTerm (term : Int)
  | votedFor (candidate : Bytes)
  | commitIndex (index : Int)
  | lastApplied (index : Int)
  deriving DecidableEq, Repr

/-- `INSERT ... ON CONFLICT(key) DO UPDATE` on `meta`. -/
def MetaTable.set (table : MetaTable) : MetaRow → MetaTable
  | .currentTerm term => { table with currentTerm := some term }
  | .votedFor candidate => { table with votedFor := some (cString candidate) }
  | .commitIndex index => { table with commitIndex := some index }
  | .lastApplied index => { table with lastApplied := some index }

/-- `SqliteStore`: the tables of one database. -/
structure SqliteStore where
  kv : Bytes → Option Bytes
  raftLog : OrderedTable LogEntry.index
  metaTable : MetaTable

/-- The writing statements of `SqliteStore`. -/
inductive Statement where
  | put (key value : Bytes)
  | erase (key : Bytes)
  | appendLog (entry : LogEntry)
  | truncateLogFrom (index : Int)
  | setMeta (row : MetaRow)
  | clearAll
  deriving DecidableEq, Repr

namespace SqliteStore

/-- A freshly created database. -/
def empty : SqliteStore where
  kv := fun _ => none
  raftLog := OrderedTable.empty
  metaTable := {}

/-- The effect of one writing statement. -/
def execute (store : SqliteStore) : Statement → SqliteStore
  | .put key value =>
      { store with kv := assign store.kv (cString key, some value) }
  | .erase key =>
      { store with kv := assign store.kv (cString key, none) }
  | .appendLog entry =>
      { store with raftLog := store.raftLog.insertOrReplace entry.stored }
  | .truncateLogFrom index =>
      { store with raftLog := store.raftLog.deleteFrom index }
  | .setMeta row =>
      { store with metaTable := store.metaTable.set row }
  | .clearAll => empty

/-- The database after a list of statements. -/
def executeAll (store : SqliteStore) (statements : List Statement) :
    SqliteStore :=
  statements.foldl execute store

/-- `SELECT value FROM kv WHERE key=?`. -/
def get (store : SqliteStore) (key : Bytes) : Option Bytes :=
  store.kv (cString key)

/-- `log_at`. -/
def logAt (store : SqliteStore) (index : Int) : Option LogEntry :=
  store.raftLog.lookup index

/-- `logs_from`. -/
def logsFrom (store : SqliteStore) (index : Int) : List LogEntry :=
  store.raftLog.selectFrom index

/-- `COALESCE(MAX(log_index), 0)`. -/
def lastLogIndex (store : SqliteStore) : Int :=
  (store.raftLog.last.map LogEntry.index).getD 0

/-- `last_log_term`: the term of the last row, or zero. -/
def lastLogTerm (store : SqliteStore) : Int :=
  (store.raftLog.last.map LogEntry.term).getD 0

/-! What `load_state` reads from `meta`: a missing row leaves the default. -/

/-- The persisted term. -/
def currentTerm (store : SqliteStore) : Int :=
  store.metaTable.currentTerm.getD 0

/-- The persisted vote: `get_meta` reads the column as a C string. -/
def votedFor (store : SqliteStore) : Bytes :=
  (store.metaTable.votedFor.map cString).getD []

/-- The persisted commit index. -/
def commitIndex (store : SqliteStore) : Int :=
  store.metaTable.commitIndex.getD 0

/-- The persisted index of the last applied entry. -/
def lastApplied (store : SqliteStore) : Int :=
  store.metaTable.lastApplied.getD 0

@[simp]
theorem executeAll_nil (store : SqliteStore) : store.executeAll [] = store :=
  rfl

@[simp]
theorem executeAll_cons
    (store : SqliteStore) (statement : Statement) (rest : List Statement) :
    store.executeAll (statement :: rest) =
      (store.execute statement).executeAll rest :=
  rfl

@[simp]
theorem executeAll_append
    (store : SqliteStore) (first second : List Statement) :
    store.executeAll (first ++ second) =
      (store.executeAll first).executeAll second :=
  List.foldl_append

end SqliteStore

end ShardedKvStore

import Mathlib.Data.List.Infix
import Mathlib.Data.List.Pairwise
import Mathlib.Order.Basic

/-!
# Tables ordered by an integer primary key

Rows are kept in the order of their keys, and no key occurs twice.  The
operations are the ones of an ordered SQL table: insert or replace, delete from
a key on, look a key up, select from a key on, and read the last row.

A table is `Contiguous` when its keys are `1, 2, ..., length`.  On a contiguous
table every operation is a list operation: lookup is indexing, appending the
next key is `++`, and deleting from a key on is `List.take`.
-/

namespace ShardedKvStore.Foundation

variable {Row : Type} {key : Row → Int}

/-- A table of rows in the strict order of their keys. -/
structure OrderedTable (key : Row → Int) where
  rows : List Row
  ordered : rows.Pairwise (fun earlier later => key earlier < key later)

namespace OrderedTable

@[ext]
theorem ext {left right : OrderedTable key} (sameRows : left.rows = right.rows) :
    left = right := by
  cases left
  cases right
  cases sameRows
  rfl

/-- The table without rows. -/
def empty : OrderedTable key :=
  ⟨[], List.Pairwise.nil⟩

/-- Put a row at the place of its key, replacing a row with that key. -/
def insertRow (key : Row → Int) (row : Row) : List Row → List Row
  | [] => [row]
  | head :: tail =>
      if key row < key head then
        row :: head :: tail
      else if key row = key head then
        row :: tail
      else
        head :: insertRow key row tail

theorem mem_insertRow
    {row tested : Row} {rows : List Row}
    (member : tested ∈ insertRow key row rows) :
    tested = row ∨ tested ∈ rows := by
  induction rows with
  | nil =>
      exact Or.inl (List.mem_singleton.mp member)
  | cons head tail inductionHypothesis =>
      unfold insertRow at member
      split at member
      · exact List.mem_cons.mp member
      · split at member
        · rcases List.mem_cons.mp member with same | later
          · exact Or.inl same
          · exact Or.inr (List.mem_cons_of_mem head later)
        · rcases List.mem_cons.mp member with same | later
          · exact Or.inr (same ▸ List.mem_cons_self)
          · exact (inductionHypothesis later).imp_right
              (List.mem_cons_of_mem head)

theorem insertRow_ordered
    {row : Row} {rows : List Row}
    (ordered : rows.Pairwise (fun earlier later => key earlier < key later)) :
    (insertRow key row rows).Pairwise
      (fun earlier later => key earlier < key later) := by
  induction rows with
  | nil =>
      exact List.pairwise_singleton _ row
  | cons head tail inductionHypothesis =>
      obtain ⟨headBefore, tailOrdered⟩ := List.pairwise_cons.mp ordered
      unfold insertRow
      split
      case isTrue before =>
        refine List.pairwise_cons.mpr ⟨?_, ordered⟩
        intro later member
        rcases List.mem_cons.mp member with same | inTail
        · rwa [same]
        · exact Int.lt_trans before (headBefore later inTail)
      case isFalse notBefore =>
        split
        case isTrue same =>
          refine List.pairwise_cons.mpr ⟨?_, tailOrdered⟩
          intro later member
          rw [same]
          exact headBefore later member
        case isFalse different =>
          refine List.pairwise_cons.mpr
            ⟨?_, inductionHypothesis tailOrdered⟩
          intro later member
          rcases mem_insertRow member with same | inTail
          · subst same
            omega
          · exact headBefore later inTail

/-- A row whose key is larger than all others goes to the end. -/
theorem insertRow_of_forall_lt
    {row : Row} {rows : List Row}
    (larger : ∀ other ∈ rows, key other < key row) :
    insertRow key row rows = rows ++ [row] := by
  induction rows with
  | nil =>
      rfl
  | cons head tail inductionHypothesis =>
      have afterHead : key head < key row := larger head List.mem_cons_self
      have afterTail :
          insertRow key row tail = tail ++ [row] :=
        inductionHypothesis fun other member =>
          larger other (List.mem_cons_of_mem head member)
      rw [insertRow, if_neg (by omega), if_neg (by omega), afterTail]
      rfl

/-- `INSERT OR REPLACE`. -/
def insertOrReplace (table : OrderedTable key) (row : Row) :
    OrderedTable key :=
  ⟨insertRow key row table.rows, insertRow_ordered table.ordered⟩

/-- Delete every row whose key is at least `bound`. -/
def deleteFrom (table : OrderedTable key) (bound : Int) : OrderedTable key :=
  ⟨table.rows.filter (fun row => key row < bound),
    table.ordered.filter _⟩

/-- The row with the given key. -/
def lookup (table : OrderedTable key) (wanted : Int) : Option Row :=
  table.rows.find? (fun row => key row = wanted)

/-- The rows from a key on, in order. -/
def selectFrom (table : OrderedTable key) (bound : Int) : List Row :=
  table.rows.filter (fun row => bound ≤ key row)

/-- The row with the largest key. -/
def last (table : OrderedTable key) : Option Row :=
  table.rows.getLast?

/-! ## Contiguous rows -/

/-- The keys are `1, 2, ..., length`. -/
def Contiguous (key : Row → Int) (rows : List Row) : Prop :=
  ∀ (position : Nat) (row : Row),
    rows[position]? = some row → key row = position + 1

theorem contiguous_iff {rows : List Row} :
    Contiguous key rows ↔
      ∀ position : Fin rows.length,
        key (rows.get position) = position + 1 := by
  constructor
  · intro contiguous position
    exact contiguous position _
      (List.getElem?_eq_getElem position.isLt)
  · intro keys position row present
    obtain ⟨inside, atPosition⟩ := List.getElem?_eq_some_iff.mp present
    rw [← atPosition]
    exact keys ⟨position, inside⟩

instance (rows : List Row) : Decidable (Contiguous key rows) :=
  decidable_of_iff' _ contiguous_iff

theorem contiguous_nil : Contiguous key [] := by
  intro position row present
  simp at present

theorem Contiguous.key_bounds
    {rows : List Row} (contiguous : Contiguous key rows)
    {row : Row} (member : row ∈ rows) :
    1 ≤ key row ∧ key row ≤ rows.length := by
  obtain ⟨position, bound, present⟩ := List.mem_iff_getElem.mp member
  have rowKey := contiguous position row (by
    rw [List.getElem?_eq_getElem bound, present])
  omega

theorem Contiguous.of_prefix
    {initial rows : List Row}
    (contiguous : Contiguous key rows) (isInitial : initial <+: rows) :
    Contiguous key initial := by
  intro position row present
  obtain ⟨suffix, shape⟩ := isInitial
  apply contiguous position row
  rw [← shape]
  exact List.getElem?_append_left
    (List.getElem?_eq_some_iff.mp present).1 ▸ present

theorem Contiguous.take
    {rows : List Row} (contiguous : Contiguous key rows) (count : Nat) :
    Contiguous key (rows.take count) :=
  contiguous.of_prefix (List.take_prefix count rows)

/-- Only the keys matter. -/
theorem Contiguous.of_keys
    {rows other : List Row} (contiguous : Contiguous key rows)
    (sameKeys : other.map key = rows.map key) :
    Contiguous key other := by
  intro position row present
  have keys := congrArg (fun keys => keys[position]?) sameKeys
  simp only [List.getElem?_map, present, Option.map_some] at keys
  obtain ⟨original, found, same⟩ :=
    Option.map_eq_some_iff.mp keys.symm
  rw [← same]
  exact contiguous position original found

/-- Appending the next key keeps the rows contiguous. -/
theorem Contiguous.append_one
    {rows : List Row} {row : Row}
    (contiguous : Contiguous key rows)
    (nextKey : key row = rows.length + 1) :
    Contiguous key (rows ++ [row]) := by
  intro position tested present
  by_cases inside : position < rows.length
  · rw [List.getElem?_append_left inside] at present
    exact contiguous position tested present
  · rw [List.getElem?_append_right (by omega)] at present
    obtain ⟨bound, same⟩ := List.getElem?_eq_some_iff.mp present
    have atEnd : position = rows.length := by
      simp only [List.length_singleton] at bound
      omega
    subst atEnd
    have rowEq : row = tested := by simpa using same
    rw [← rowEq, nextKey]

theorem insertOrReplace_rows_of_next
    {table : OrderedTable key} {row : Row}
    (contiguous : Contiguous key table.rows)
    (nextKey : key row = table.rows.length + 1) :
    (table.insertOrReplace row).rows = table.rows ++ [row] := by
  apply insertRow_of_forall_lt
  intro other member
  have bounds := contiguous.key_bounds member
  omega

private theorem find_key_eq_none
    {rows : List Row} {wanted : Int}
    (absent : ∀ row ∈ rows, key row ≠ wanted) :
    rows.find? (fun row => decide (key row = wanted)) = none := by
  rw [List.find?_eq_none]
  intro row member
  simpa using absent row member

theorem lookup_of_contiguous
    {table : OrderedTable key}
    (contiguous : Contiguous key table.rows) (position : Nat) :
    table.lookup (position + 1) = table.rows[position]? := by
  unfold lookup
  cases present : table.rows[position]? with
  | none =>
      apply find_key_eq_none
      intro row member
      have bounds := contiguous.key_bounds member
      have outside := List.getElem?_eq_none_iff.mp present
      omega
  | some row =>
      rw [List.find?_eq_some_iff_getElem]
      obtain ⟨bound, atPosition⟩ := List.getElem?_eq_some_iff.mp present
      have rowKey := contiguous position row present
      refine ⟨by simpa using rowKey, position, bound, atPosition, ?_⟩
      intro earlier before
      have earlierKey := contiguous earlier _
        (List.getElem?_eq_getElem (before.trans bound))
      simp only [Bool.not_eq_eq_eq_not, Bool.not_true,
        decide_eq_false_iff_not]
      omega

/-- Outside `1, ..., length` a contiguous table has no row. -/
theorem lookup_eq_none_of_contiguous
    {table : OrderedTable key} {wanted : Int}
    (contiguous : Contiguous key table.rows)
    (outside : wanted < 1 ∨ table.rows.length < wanted) :
    table.lookup wanted = none := by
  apply find_key_eq_none
  intro row member
  have bounds := contiguous.key_bounds member
  omega

theorem deleteFrom_rows_of_contiguous
    {table : OrderedTable key}
    (contiguous : Contiguous key table.rows) (kept : Nat) :
    (table.deleteFrom (kept + 1)).rows = table.rows.take kept := by
  have splitRows : table.rows = table.rows.take kept ++ table.rows.drop kept :=
    (List.take_append_drop kept table.rows).symm
  have keepInitial :
      (table.rows.take kept).filter (fun row => key row < (kept : Int) + 1) =
        table.rows.take kept := by
    rw [List.filter_eq_self]
    intro row member
    have bounds := (contiguous.take kept).key_bounds member
    have shorter := List.length_take_le kept table.rows
    simp only [decide_eq_true_eq]
    omega
  have dropRest :
      (table.rows.drop kept).filter (fun row => key row < (kept : Int) + 1) =
        [] := by
    rw [List.filter_eq_nil_iff]
    intro row member
    obtain ⟨offset, bound, present⟩ := List.mem_iff_getElem.mp member
    have rowKey := contiguous (kept + offset) row (by
      rw [← List.getElem?_drop, List.getElem?_eq_getElem bound, present])
    simp only [decide_eq_true_eq]
    omega
  calc
    (table.deleteFrom (kept + 1)).rows =
        (table.rows.take kept ++ table.rows.drop kept).filter
          (fun row => key row < (kept : Int) + 1) := by
      rw [← splitRows]
      rfl
    _ = table.rows.take kept := by
      rw [List.filter_append, keepInitial, dropRest, List.append_nil]

theorem selectFrom_one_of_contiguous
    {table : OrderedTable key}
    (contiguous : Contiguous key table.rows) :
    table.selectFrom 1 = table.rows := by
  unfold selectFrom
  rw [List.filter_eq_self]
  intro row member
  have bounds := contiguous.key_bounds member
  simpa using bounds.1

/-- The last key of a contiguous table, or zero, is its length. -/
theorem last_key_of_contiguous
    {table : OrderedTable key}
    (contiguous : Contiguous key table.rows) :
    (table.last.map key).getD 0 = table.rows.length := by
  unfold last
  rw [List.getLast?_eq_getElem?]
  cases present : table.rows[table.rows.length - 1]? with
  | none =>
      have outside := List.getElem?_eq_none_iff.mp present
      simp only [Option.map_none, Option.getD_none]
      omega
  | some row =>
      have rowKey := contiguous _ row present
      have bound := (List.getElem?_eq_some_iff.mp present).1
      simp only [Option.map_some, Option.getD_some, rowKey]
      omega

end OrderedTable

end ShardedKvStore.Foundation

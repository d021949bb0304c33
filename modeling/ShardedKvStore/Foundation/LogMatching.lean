import Mathlib.Data.List.Infix
import Mathlib.Data.List.TakeDrop

/-!
# Merging a received slice into a log

Two replicated logs match when rows of the same term at the same position have
the same rows before them.  A follower that receives the leader's rows up to
`count` keeps its own log when it has them already, and cuts it to them
otherwise; `merged` is the log it ends with.  The follower works row by row
(`mergeRow`), and `merged_merged` puts the single rows together.
-/

namespace ShardedKvStore.Foundation

variable {Row Term : Type}

/-- Equal terms at a position come with equal rows up to it. -/
def LogMatching (term : Row → Term) (own leader : List Row) : Prop :=
  ∀ (position : Nat) (row received : Row),
    own[position]? = some row → leader[position]? = some received →
    term row = term received →
      own.take (position + 1) = leader.take (position + 1)

/-- Some received row has another term than the row it meets. -/
def Conflicts
    (term : Row → Term) (own leader : List Row) (start count : Nat) : Prop :=
  ∃ position row received,
    start ≤ position ∧ position < count ∧
      own[position]? = some row ∧ leader[position]? = some received ∧
      term row ≠ term received

theorem logMatching_of_prefixes
    {term : Row → Term} {own leader : List Row} (initial : own <+: leader) :
    LogMatching term own leader := by
  intro position row _ present _ _
  obtain ⟨suffix, rfl⟩ := initial
  have inside : position < own.length :=
    (List.getElem?_eq_some_iff.mp present).1
  exact (List.take_append_of_le_length inside).symm

/-- Logs that agree up to a count agree up to every smaller count. -/
theorem take_eq_of_le
    {own leader : List Row} {smaller larger : Nat}
    (agree : own.take larger = leader.take larger)
    (below : smaller ≤ larger) :
    own.take smaller = leader.take smaller := by
  have shorter := congrArg (List.take smaller) agree
  rwa [List.take_take, List.take_take, Nat.min_eq_left below] at shorter

/-- Logs that agree up to a count have the same rows there. -/
theorem getElem?_eq_of_take_eq
    {own leader : List Row} {count position : Nat}
    (agree : own.take count = leader.take count) (below : position < count) :
    own[position]? = leader[position]? := by
  have same := congrArg (fun rows => rows[position]?) agree
  simpa only [List.getElem?_take_of_lt below] using same

/-- Logs with the same rows below a count agree up to it. -/
theorem take_eq_of_getElem?
    {own leader : List Row} {count : Nat}
    (same : ∀ position, position < count →
      own[position]? = leader[position]?) :
    own.take count = leader.take count := by
  apply List.ext_getElem?
  intro position
  by_cases below : position < count
  · rw [List.getElem?_take_of_lt below, List.getElem?_take_of_lt below,
      same position below]
  · rw [List.getElem?_take_eq_none (Nat.not_lt.mp below),
      List.getElem?_take_eq_none (Nat.not_lt.mp below)]

/-- Receive one row: it replaces the rows from its position on, unless a row of
its term is there. -/
def mergeRow [DecidableEq Term]
    (term : Row → Term) (own : List Row) (position : Nat) (row : Row) :
    List Row :=
  if own[position]?.map term = some (term row) then
    own
  else
    own.take position ++ [row]

section Merging

variable [DecidableEq Row]

/-- The log of a follower that has received the leader's rows up to `count`. -/
def merged (own leader : List Row) (count : Nat) : List Row :=
  if own.take count = leader.take count then own else leader.take count

variable {term : Row → Term} {own leader : List Row} {start count : Nat}

theorem merged_eq_own (agree : own.take count = leader.take count) :
    merged own leader count = own :=
  if_pos agree

theorem merged_eq_take (differ : own.take count ≠ leader.take count) :
    merged own leader count = leader.take count :=
  if_neg differ

/-- The merged log has the leader's rows up to `count`. -/
theorem take_merged (own leader : List Row) (count : Nat) :
    (merged own leader count).take count = leader.take count := by
  unfold merged
  split
  case isTrue agree =>
    exact agree
  case isFalse =>
    rw [List.take_take, Nat.min_self]

theorem logMatching_merged (matching : LogMatching term own leader) :
    LogMatching term (merged own leader count) leader := by
  unfold merged
  split
  · exact matching
  · exact logMatching_of_prefixes (List.take_prefix count leader)

/-- Receiving the leader's next row. -/
theorem mergeRow_eq_merged [DecidableEq Term]
    {position : Nat} {received : Row}
    (matching : LogMatching term own leader)
    (agree : own.take position = leader.take position)
    (arrives : leader[position]? = some received) :
    mergeRow term own position received =
      merged own leader (position + 1) := by
  have extended :
      leader.take (position + 1) = leader.take position ++ [received] := by
    rw [List.take_add_one, arrives]
    rfl
  unfold mergeRow
  split
  case isTrue sameTerm =>
    obtain ⟨row, present, sameTerm⟩ := Option.map_eq_some_iff.mp sameTerm
    rw [merged_eq_own
      (matching position row received present arrives sameTerm)]
  case isFalse otherTerm =>
    have differ :
        own.take (position + 1) ≠ leader.take (position + 1) := by
      intro same
      have rows := getElem?_eq_of_take_eq same (Nat.lt_succ_self position)
      rw [arrives] at rows
      exact otherTerm (by rw [rows]; rfl)
    rw [merged_eq_take differ, agree, extended]

/-- Receiving more rows after some of them is receiving all of them. -/
theorem merged_merged
    {fewer : Nat} (below : fewer ≤ count) :
    merged (merged own leader fewer) leader count =
      merged own leader count := by
  by_cases agree : own.take fewer = leader.take fewer
  · rw [merged_eq_own agree]
  · have differ : own.take count ≠ leader.take count :=
      fun same => agree (take_eq_of_le same below)
    rw [merged_eq_take agree, merged_eq_take differ]
    by_cases short : (leader.take fewer).take count = leader.take count
    · rw [merged_eq_own short, ← short, List.take_take,
        Nat.min_eq_right below]
    · exact merged_eq_take short

/-- A log that meets the received rows without a conflict is only extended. -/
theorem prefix_merged
    (matching : LogMatching term own leader)
    (agree : own.take start = leader.take start)
    (within : count ≤ leader.length)
    (noConflict : ¬ Conflicts term own leader start count) :
    own <+: merged own leader count := by
  by_cases contained : own.take count = leader.take count
  · rw [merged_eq_own contained]
  · rw [merged_eq_take contained]
    -- Every row of `own` below `count` is the leader's.
    have same (position : Nat) (below : position < count)
        (inside : position < own.length) :
        own[position]? = leader[position]? := by
      by_cases early : position < start
      · exact getElem?_eq_of_take_eq agree early
      · have present := List.getElem?_eq_getElem inside
        have received :=
          List.getElem?_eq_getElem (below.trans_le within)
        have sameTerm : term own[position] = term leader[position] := by
          by_contra differ
          exact noConflict ⟨position, _, _, Nat.not_lt.mp early, below,
            present, received, differ⟩
        exact getElem?_eq_of_take_eq
          (matching position _ _ present received sameTerm)
          (Nat.lt_succ_self position)
    have short : own.length ≤ count := by
      by_contra long
      exact contained (take_eq_of_getElem? fun position below =>
        same position below (below.trans (Nat.not_le.mp long)))
    have initial : own = leader.take own.length := by
      rw [← List.take_length (l := own)]
      have agrees : own.take own.length = leader.take own.length :=
        take_eq_of_getElem? fun position inside =>
          same position (inside.trans_le short) inside
      rw [agrees, List.length_take, Nat.min_eq_left (short.trans within)]
    rw [initial]
    exact List.take_prefix_take_left short

end Merging

end ShardedKvStore.Foundation

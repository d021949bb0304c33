import Mathlib.Data.List.TakeDrop
import Mathlib.Logic.Function.Basic

/-!
# Replaying assignments

A table maps keys to optional values.  Replaying a list of assignments performs
them in order, so each key ends with its last assignment.  Two consequences
carry the recovery arguments: replaying an initial part first changes nothing
(`replayOnto_take`), and every entry of the result is either an old entry or
the effect of one of the assignments (`replayOnto_cases`).
-/

namespace ShardedKvStore.Foundation

variable {Key Value : Type} [DecidableEq Key]

/-- An assignment sets a key to a value, or removes it. -/
abbrev Assignment (Key Value : Type) : Type :=
  Key × Option Value

/-- Perform one assignment. -/
def assign
    (table : Key → Option Value) (assignment : Assignment Key Value) :
    Key → Option Value :=
  Function.update table assignment.1 assignment.2

/-- Perform a list of assignments, in order, on a table. -/
def replayOnto
    (table : Key → Option Value)
    (assignments : List (Assignment Key Value)) :
    Key → Option Value :=
  assignments.foldl assign table

/-- The table built from nothing by a list of assignments. -/
def replay (assignments : List (Assignment Key Value)) :
    Key → Option Value :=
  replayOnto (fun _ => none) assignments

@[simp]
theorem replayOnto_nil (table : Key → Option Value) :
    replayOnto table [] = table :=
  rfl

@[simp]
theorem replayOnto_cons
    (table : Key → Option Value) (first : Assignment Key Value)
    (rest : List (Assignment Key Value)) :
    replayOnto table (first :: rest) =
      replayOnto (assign table first) rest :=
  rfl

theorem replayOnto_append
    (table : Key → Option Value)
    (first second : List (Assignment Key Value)) :
    replayOnto table (first ++ second) =
      replayOnto (replayOnto table first) second :=
  List.foldl_append

theorem replay_append (first second : List (Assignment Key Value)) :
    replay (first ++ second) = replayOnto (replay first) second :=
  replayOnto_append _ first second

/-- A key that no assignment names keeps its entry. -/
theorem replayOnto_of_unnamed
    {table : Key → Option Value}
    {assignments : List (Assignment Key Value)} {tested : Key}
    (unnamed : ∀ assignment ∈ assignments, assignment.1 ≠ tested) :
    replayOnto table assignments tested = table tested := by
  induction assignments generalizing table with
  | nil =>
      rfl
  | cons first rest inductionHypothesis =>
      have restUnnamed : ∀ assignment ∈ rest, assignment.1 ≠ tested :=
        fun assignment member =>
          unnamed assignment (List.mem_cons_of_mem first member)
      rw [replayOnto_cons, inductionHypothesis restUnnamed]
      exact Function.update_of_ne
        (unnamed first List.mem_cons_self).symm _ _

/-- The entry of a key that some assignment names does not depend on the
table the replay started from. -/
theorem replayOnto_of_named
    {left right : Key → Option Value}
    {assignments : List (Assignment Key Value)} {tested : Key}
    (named : ∃ assignment ∈ assignments, assignment.1 = tested) :
    replayOnto left assignments tested =
      replayOnto right assignments tested := by
  induction assignments generalizing left right with
  | nil =>
      obtain ⟨assignment, member, _⟩ := named
      exact absurd member List.not_mem_nil
  | cons first rest inductionHypothesis =>
      rw [replayOnto_cons, replayOnto_cons]
      by_cases later : ∃ assignment ∈ rest, assignment.1 = tested
      · exact inductionHypothesis later
      · have restUnnamed : ∀ assignment ∈ rest, assignment.1 ≠ tested :=
          fun assignment member same => later ⟨assignment, member, same⟩
        obtain ⟨assignment, member, same⟩ := named
        have isFirst : first.1 = tested := by
          rcases List.mem_cons.mp member with equal | inRest
          · rw [← equal, same]
          · exact absurd same (restUnnamed assignment inRest)
        rw [replayOnto_of_unnamed restUnnamed,
          replayOnto_of_unnamed restUnnamed]
        simp [assign, isFirst]

/-- The entry of a key depends on no other entry of the table. -/
theorem replayOnto_congr
    {left right : Key → Option Value} {tested : Key}
    (same : left tested = right tested)
    (assignments : List (Assignment Key Value)) :
    replayOnto left assignments tested =
      replayOnto right assignments tested := by
  by_cases named : ∃ assignment ∈ assignments, assignment.1 = tested
  · exact replayOnto_of_named named
  · have unnamed : ∀ assignment ∈ assignments, assignment.1 ≠ tested :=
      fun assignment member isKey => named ⟨assignment, member, isKey⟩
    rw [replayOnto_of_unnamed unnamed, replayOnto_of_unnamed unnamed, same]

/-- Assignments to other keys may be left out. -/
theorem replayOnto_filter
    {tested : Key} {keep : Assignment Key Value → Bool}
    {assignments : List (Assignment Key Value)}
    (keeps :
      ∀ assignment ∈ assignments,
        assignment.1 = tested → keep assignment = true)
    (table : Key → Option Value) :
    replayOnto table (assignments.filter keep) tested =
      replayOnto table assignments tested := by
  induction assignments generalizing table with
  | nil =>
      rfl
  | cons first rest inductionHypothesis =>
      have keepsRest :
          ∀ assignment ∈ rest,
            assignment.1 = tested → keep assignment = true :=
        fun assignment member =>
          keeps assignment (List.mem_cons_of_mem first member)
      cases kept : keep first with
      | true =>
          rw [List.filter_cons_of_pos kept]
          exact inductionHypothesis keepsRest _
      | false =>
          have other : first.1 ≠ tested := by
            intro isKey
            rw [keeps first List.mem_cons_self isKey] at kept
            cases kept
          rw [List.filter_cons_of_neg (by simp [kept]),
            inductionHypothesis keepsRest, replayOnto_cons]
          exact replayOnto_congr
            (Function.update_of_ne other.symm _ _).symm rest

/-- Performing an initial part of the assignments twice changes nothing. -/
theorem replayOnto_take
    (table : Key → Option Value)
    (assignments : List (Assignment Key Value)) (count : Nat) :
    replayOnto (replayOnto table (assignments.take count)) assignments =
      replayOnto table assignments := by
  funext tested
  by_cases named : ∃ assignment ∈ assignments, assignment.1 = tested
  · exact replayOnto_of_named named
  · have unnamed : ∀ assignment ∈ assignments, assignment.1 ≠ tested :=
      fun assignment member same => named ⟨assignment, member, same⟩
    have initialUnnamed :
        ∀ assignment ∈ assignments.take count, assignment.1 ≠ tested :=
      fun assignment member =>
        unnamed assignment (List.mem_of_mem_take member)
    rw [replayOnto_of_unnamed unnamed, replayOnto_of_unnamed unnamed,
      replayOnto_of_unnamed initialUnnamed]

/-- Performing a final part of the assignments once more changes nothing. -/
theorem replayOnto_final
    (table : Key → Option Value)
    (first second : List (Assignment Key Value)) :
    replayOnto (replayOnto table (first ++ second)) second =
      replayOnto table (first ++ second) := by
  have again := replayOnto_take (replayOnto table first) second second.length
  rw [List.take_length] at again
  rw [replayOnto_append, again]

/-- Performing the assignments from some point on, when they were performed up to
that point or beyond, completes them. -/
theorem replayOnto_overlap
    (table : Key → Option Value)
    (assignments : List (Assignment Key Value)) {start reached : Nat}
    (overlaps : start ≤ reached) :
    replayOnto (replayOnto table (assignments.take reached))
        (assignments.drop start) =
      replayOnto table assignments := by
  obtain ⟨count, rfl⟩ := Nat.exists_eq_add_of_le overlaps
  calc
    replayOnto (replayOnto table (assignments.take (start + count)))
        (assignments.drop start)
        = replayOnto
            (replayOnto (replayOnto table (assignments.take start))
              ((assignments.drop start).take count))
            (assignments.drop start) := by
      rw [List.take_add, replayOnto_append]
    _ = replayOnto (replayOnto table (assignments.take start))
          (assignments.drop start) :=
      replayOnto_take _ _ _
    _ = replayOnto table assignments := by
      rw [← replayOnto_append, List.take_append_drop]

/-- An entry after a replay is the old entry or the effect of an assignment
to its key. -/
theorem replayOnto_cases
    (table : Key → Option Value)
    (assignments : List (Assignment Key Value)) (tested : Key) :
    replayOnto table assignments tested = table tested ∨
      ∃ assignment ∈ assignments,
        assignment.1 = tested ∧
          replayOnto table assignments tested = assignment.2 := by
  induction assignments generalizing table with
  | nil =>
      exact Or.inl rfl
  | cons first rest inductionHypothesis =>
      rw [replayOnto_cons]
      rcases inductionHypothesis (assign table first) with
        kept | ⟨assignment, member, same, effect⟩
      · by_cases isFirst : first.1 = tested
        · refine Or.inr ⟨first, List.mem_cons_self, isFirst, ?_⟩
          rw [kept]
          simp [assign, isFirst]
        · refine Or.inl ?_
          rw [kept]
          exact Function.update_of_ne (Ne.symm isFirst) _ _
      · exact Or.inr
          ⟨assignment, List.mem_cons_of_mem first member, same, effect⟩

/-- After a last assignment to a key the key has that effect. -/
theorem replayOnto_append_self
    (table : Key → Option Value)
    (assignments : List (Assignment Key Value))
    (final : Assignment Key Value) :
    replayOnto table (assignments ++ [final]) final.1 = final.2 := by
  rw [replayOnto_append]
  simp [assign]

end ShardedKvStore.Foundation

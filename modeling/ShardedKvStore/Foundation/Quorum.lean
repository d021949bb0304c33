import Mathlib.Data.List.FinRange

/-!
# Majorities

`tally holds` counts the members of `Fin size` that satisfy a predicate.  Two
predicates that both hold of a majority hold together of some member.
-/

namespace ShardedKvStore.Foundation

variable {size : Nat}

/-- The least number of members that is a majority. -/
def majority (size : Nat) : Nat :=
  size / 2 + 1

/-- The number of members with a property. -/
def tally (holds : Fin size → Bool) : Nat :=
  (List.finRange size).countP holds

theorem tally_eq_length_filter (holds : Fin size → Bool) :
    tally holds = ((List.finRange size).filter holds).length :=
  List.countP_eq_length_filter

theorem tally_mono
    {narrow wide : Fin size → Bool}
    (implies : ∀ member, narrow member = true → wide member = true) :
    tally narrow ≤ tally wide :=
  List.countP_mono_left fun member _ => implies member

theorem tally_le_size (holds : Fin size → Bool) :
    tally holds ≤ size := by
  have bound := List.countP_le_length (p := holds) (l := List.finRange size)
  rwa [List.length_finRange] at bound

theorem tally_all
    {holds : Fin size → Bool} (all : ∀ member, holds member = true) :
    tally holds = size := by
  unfold tally
  rw [List.countP_eq_length.mpr fun member _ => all member,
    List.length_finRange]

/-- Distinct members with a property are counted. -/
theorem length_le_tally
    {holds : Fin size → Bool} {members : List (Fin size)}
    (distinct : members.Nodup)
    (all : ∀ member ∈ members, holds member = true) :
    members.length ≤ tally holds := by
  rw [tally_eq_length_filter]
  refine (List.subperm_of_subset distinct ?_).length_le
  intro member isMember
  exact List.mem_filter.mpr
    ⟨List.mem_finRange member, all member isMember⟩

theorem exists_of_tally_pos
    {holds : Fin size → Bool} (positive : 0 < tally holds) :
    ∃ member, holds member = true := by
  obtain ⟨member, _, holdsMember⟩ := List.countP_pos_iff.mp positive
  exact ⟨member, holdsMember⟩

private theorem countP_add_le
    {Item : Type} (first second : Item → Bool) (items : List Item) :
    items.countP first + items.countP second ≤
      items.length +
        items.countP (fun item => first item && second item) := by
  induction items with
  | nil =>
      simp
  | cons head tail inductionHypothesis =>
      simp only [List.countP_cons, List.length_cons]
      cases first head <;> cases second head <;> simp <;> omega

/-- Two majorities have a common member. -/
theorem majorities_intersect
    {first second : Fin size → Bool}
    (firstMajority : majority size ≤ tally first)
    (secondMajority : majority size ≤ tally second) :
    ∃ member, first member = true ∧ second member = true := by
  have overlap := countP_add_le first second (List.finRange size)
  rw [List.length_finRange] at overlap
  have positive : 0 < tally (fun item => first item && second item) := by
    unfold tally majority at *
    omega
  obtain ⟨member, both⟩ := exists_of_tally_pos positive
  exact ⟨member, by simpa using both⟩

end ShardedKvStore.Foundation

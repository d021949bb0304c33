import Mathlib.Order.Lattice

/-!
# The first largest element

`maxElement less items` scans `items` from the left and moves on only to a
strictly larger item, so it returns the first of the largest ones.
-/

namespace ShardedKvStore.Foundation

variable {Item Rank : Type}

/-- The first largest item for a strict comparison. -/
def maxElement (less : Item → Item → Bool) : List Item → Option Item
  | [] => none
  | first :: rest =>
      some <| rest.foldl
        (fun largest item => if less largest item then item else largest)
        first

theorem maxElement_isSome
    {less : Item → Item → Bool} {items : List Item}
    (nonempty : items ≠ []) :
    ∃ largest, maxElement less items = some largest := by
  cases items with
  | nil =>
      exact absurd rfl nonempty
  | cons first rest =>
      exact ⟨_, rfl⟩

private theorem foldl_largest
    [LinearOrder Rank] {less : Item → Item → Bool} {rank : Item → Rank}
    (ranked : ∀ left right, less left right = true ↔ rank left < rank right)
    (start : Item) (items : List Item) :
    let largest := items.foldl
      (fun largest item => if less largest item then item else largest) start
    (largest = start ∨ largest ∈ items) ∧
      rank start ≤ rank largest ∧
        ∀ item ∈ items, rank item ≤ rank largest := by
  induction items generalizing start with
  | nil =>
      simp
  | cons head tail inductionHypothesis =>
      simp only [List.foldl_cons]
      by_cases larger : less start head = true
      · rw [if_pos larger]
        obtain ⟨member, fromHead, fromTail⟩ := inductionHypothesis head
        refine ⟨Or.inr (List.mem_cons.mpr member), ?_, ?_⟩
        · exact ((ranked start head).mp larger).le.trans fromHead
        · intro item inItems
          rcases List.mem_cons.mp inItems with same | inTail
          · rw [same]
            exact fromHead
          · exact fromTail item inTail
      · rw [if_neg larger]
        obtain ⟨member, fromStart, fromTail⟩ := inductionHypothesis start
        have notAbove : rank head ≤ rank start :=
          not_lt.mp fun above => larger ((ranked start head).mpr above)
        refine ⟨member.imp_right (List.mem_cons_of_mem head),
          fromStart, ?_⟩
        intro item inItems
        rcases List.mem_cons.mp inItems with same | inTail
        · rw [same]
          exact notAbove.trans fromStart
        · exact fromTail item inTail

/-- The result is one of the items, and none has a larger rank. -/
theorem maxElement_spec
    [LinearOrder Rank] {less : Item → Item → Bool} {rank : Item → Rank}
    (ranked : ∀ left right, less left right = true ↔ rank left < rank right)
    {items : List Item} {largest : Item}
    (found : maxElement less items = some largest) :
    largest ∈ items ∧ ∀ item ∈ items, rank item ≤ rank largest := by
  cases items with
  | nil =>
      cases found
  | cons first rest =>
      have shape := Option.some.inj found
      obtain ⟨member, fromFirst, fromRest⟩ := foldl_largest ranked first rest
      rw [shape] at member fromFirst fromRest
      refine ⟨List.mem_cons.mpr member, ?_⟩
      intro item inItems
      rcases List.mem_cons.mp inItems with same | inRest
      · rw [same]
        exact fromFirst
      · exact fromRest item inRest

end ShardedKvStore.Foundation

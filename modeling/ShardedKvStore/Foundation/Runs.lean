import Mathlib.Algebra.GroupWithZero.Nat
import Mathlib.Logic.Relation

/-!
# Runs of a labelled transition system

A run is a list of labels, oldest first, with the state it leads to.  What can be
observed of a run is selected from its labels.
-/

namespace ShardedKvStore.Foundation

variable {State Label : Type}

/-- The runs of a step relation from the states of `start`. -/
inductive Run
    (start : State → Prop) (step : State → Label → State → Prop) :
    List Label → State → Prop
  | initial {state : State} :
      start state → Run start step [] state
  | extend {labels : List Label} {state next : State} {label : Label} :
      Run start step labels state → step state label next →
      Run start step (labels ++ [label]) next

/-- The runs whose states all satisfy a condition. -/
abbrev RunWithin
    (Holds : State → Prop) (start : State → Prop)
    (step : State → Label → State → Prop) :
    List Label → State → Prop :=
  Run (fun state => start state ∧ Holds state)
    (fun state label next => step state label next ∧ Holds next)

section Within

variable {Holds start : State → Prop} {step : State → Label → State → Prop}
  {labels : List Label} {state : State}

theorem RunWithin.holds
    (run : RunWithin Holds start step labels state) : Holds state := by
  cases run with
  | initial started =>
      exact started.2
  | extend _ step =>
      exact step.2

theorem RunWithin.run
    (run : RunWithin Holds start step labels state) :
    Run start step labels state := by
  induction run with
  | initial started =>
      exact .initial started.1
  | extend _ step inductionHypothesis =>
      exact inductionHypothesis.extend step.1

end Within

/-- A run that is continued from the state it leads to. -/
theorem Run.append
    {start : State → Prop} {step : State → Label → State → Prop}
    {before labels : List Label} {middle state : State}
    (run : Run start step before middle)
    (continued : Run (fun first => first = middle) step labels state) :
    Run start step (before ++ labels) state := by
  induction continued with
  | initial started =>
      subst started
      rw [List.append_nil]
      exact run
  | extend _ step inductionHypothesis =>
      rw [← List.append_assoc]
      exact inductionHypothesis.extend step

/-- A condition on the labels of an extended run. -/
theorem forall_mem_concat_iff
    {Holds : Label → Prop} {labels : List Label} {label : Label} :
    (∀ reached ∈ labels ++ [label], Holds reached) ↔
      (∀ reached ∈ labels, Holds reached) ∧ Holds label := by
  rw [List.forall_mem_append, List.forall_mem_singleton]

/-- What is observed of an extended run. -/
theorem filterMap_concat
    {Event : Type} (observe : Label → Option Event)
    (labels : List Label) (label : Label) :
    (labels ++ [label]).filterMap observe =
      labels.filterMap observe ++ (observe label).toList := by
  rw [List.filterMap_append]
  cases observed : observe label with
  | none =>
      simp [observed]
  | some event =>
      simp [observed]

/-! ## Parties

A state may hold the states of several parties, one of which takes a step. -/

variable {Party : Type} {parties : List Party} {party other : Party}
  {index position : Nat}

/-- A party is added. -/
theorem getElem?_concat_iff :
    (parties ++ [party])[position]? = some other ↔
      parties[position]? = some other ∨
        position = parties.length ∧ other = party := by
  rcases Nat.lt_trichotomy position parties.length with
    inside | rfl | outside
  · rw [List.getElem?_append_left inside]
    simp [Nat.ne_of_lt inside]
  · simp [eq_comm]
  · rw [List.getElem?_append_right (Nat.le_of_lt outside),
      List.getElem?_eq_none (Nat.le_of_lt outside),
      List.getElem?_eq_none (Nat.sub_pos_of_lt outside)]
    simp [Nat.ne_of_gt outside]

/-- A party takes a step. -/
theorem getElem?_set_iff {old : Party} (found : parties[index]? = some old) :
    (parties.set index party)[position]? = some other ↔
      position = index ∧ other = party ∨
        position ≠ index ∧ parties[position]? = some other := by
  obtain ⟨inside, _⟩ := List.getElem?_eq_some_iff.mp found
  by_cases same : index = position
  · subst same
    rw [List.getElem?_set_self inside]
    simp [eq_comm]
  · rw [List.getElem?_set_ne same]
    simp [Ne.symm same]

/-- What the parties weigh after one of them has taken a step. -/
theorem sum_map_set
    {old : Party} (weight : Party → Nat)
    (found : parties[index]? = some old) :
    ((parties.set index party).map weight).sum + weight old =
      (parties.map weight).sum + weight party := by
  induction parties generalizing index with
  | nil =>
      cases found
  | cons first rest inductionHypothesis =>
      cases index with
      | zero =>
          obtain rfl := Option.some.inj found
          simp only [List.set_cons_zero, List.map_cons, List.sum_cons]
          omega
      | succ index =>
          have same := inductionHypothesis found
          simp only [List.set_cons_succ, List.map_cons, List.sum_cons]
          omega

section Kept

variable {keep : Party → Bool} {old : Party}

/-- A party that is left out takes a step. -/
theorem filter_set_of_dropped
    (found : parties[index]? = some old) (dropped : keep old = false)
    (stillDropped : keep party = false) :
    (parties.set index party).filter keep = parties.filter keep := by
  induction parties generalizing index with
  | nil =>
      cases found
  | cons first rest inductionHypothesis =>
      cases index with
      | zero =>
          obtain rfl := Option.some.inj found
          simp only [List.set_cons_zero, List.filter_cons, dropped,
            stillDropped, Bool.false_eq_true, if_false]
      | succ index =>
          rw [List.set_cons_succ, List.filter_cons, List.filter_cons,
            inductionHypothesis found]

/-- A party that is kept takes a step. -/
theorem filter_set_of_kept
    (found : parties[index]? = some old) (kept : keep old = true)
    (stillKept : keep party = true) :
    ∃ position : Nat,
      (parties.filter keep)[position]? = some old ∧
        (parties.set index party).filter keep =
          (parties.filter keep).set position party := by
  induction parties generalizing index with
  | nil =>
      cases found
  | cons first rest inductionHypothesis =>
      cases index with
      | zero =>
          obtain rfl := Option.some.inj found
          refine ⟨0, ?_, ?_⟩
          · rw [List.filter_cons_of_pos kept, List.getElem?_cons_zero]
          · rw [List.set_cons_zero, List.filter_cons_of_pos stillKept,
              List.filter_cons_of_pos kept, List.set_cons_zero]
      | succ index =>
          obtain ⟨position, isOld, same⟩ := inductionHypothesis found
          rw [List.set_cons_succ, List.filter_cons, List.filter_cons, same]
          cases keep first with
          | true =>
              exact ⟨position + 1, isOld, rfl⟩
          | false =>
              exact ⟨position, isOld, rfl⟩

end Kept

/-! ## Observations

A party may look at the state time and again while the run goes on. -/

section Observations

variable {Value : Type} {start : State → Prop}
  {step : State → Label → State → Prop}

/-- Values that are read one after the other while a run goes on. -/
inductive Collected
    (start : State → Prop) (step : State → Label → State → Prop)
    (Observed : Nat → State → Value → Prop) :
    List Label → List Value → Prop
  | nothing (labels : List Label) : Collected start step Observed labels []
  | next {earlier labels : List Label} {state : State}
      {values : List Value} {value : Value} :
      Collected start step Observed earlier values →
      Run start step earlier state → Observed values.length state value →
      earlier <+: labels →
      Collected start step Observed labels (values ++ [value])

variable {Observed : Nat → State → Value → Prop}
  {earlier labels : List Label} {values : List Value}

theorem Collected.later
    (collected : Collected start step Observed earlier values)
    (isPrefix : earlier <+: labels) :
    Collected start step Observed labels values := by
  cases collected with
  | nothing =>
      exact .nothing labels
  | next before run observed within =>
      exact .next before run observed (within.trans isPrefix)

/-- Every value was there at a moment of the run, and the moments are in the order
of the values. -/
theorem Collected.moments
    (collected : Collected start step Observed labels values) :
    ∃ moments : Nat → List Label,
      (∀ (position : Nat) (value : Value),
        values[position]? = some value →
        moments position <+: labels ∧
          ∃ state,
            Run start step (moments position) state ∧
              Observed position state value) ∧
        ∀ first second,
          first ≤ second → second < values.length →
          moments first <+: moments second := by
  induction collected with
  | nothing labels =>
      exact ⟨fun _ => [], nofun, nofun⟩
  | @next earlier labels state values value before run observed within
      inductionHypothesis =>
      obtain ⟨moments, were, ordered⟩ := inductionHypothesis
      refine
        ⟨fun position =>
          if position < values.length then moments position else earlier,
          ?_, ?_⟩
      · intro position other found
        rcases getElem?_concat_iff.mp found with old | ⟨rfl, rfl⟩
        · obtain ⟨inside, _⟩ := List.getElem?_eq_some_iff.mp old
          obtain ⟨isPrefix, wasThere⟩ := were position other old
          simp only [if_pos inside]
          exact ⟨isPrefix.trans within, wasThere⟩
        · simp only [if_neg (Nat.lt_irrefl _)]
          exact ⟨within, state, run, observed⟩
      · intro first second notAfter inside
        rw [List.length_append, List.length_singleton] at inside
        by_cases isOld : second < values.length
        · simp only [if_pos isOld, if_pos (Nat.lt_of_le_of_lt notAfter isOld)]
          exact ordered first second notAfter isOld
        · simp only [if_neg isOld]
          split
          case isTrue firstOld =>
            have found := List.getElem?_eq_getElem firstOld
            exact (were first _ found).1
          case isFalse =>
            exact List.prefix_rfl

end Observations

end ShardedKvStore.Foundation

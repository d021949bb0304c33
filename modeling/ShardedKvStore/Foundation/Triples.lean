import ShardedKvStore.Foundation.Journal

/-!
# Pre- and postconditions of journaled computations

A triple says where a computation ends that starts in a state of `pre`: in a
state of `post` for the value it returns, or in a state of `failed` when it
fails.  The rules follow the constructors of the computations.
-/

namespace ShardedKvStore.Foundation

variable {Event State Failure Value Next : Type}

/-- The computation ends in `post` when it returns and in `failed` when it
fails. -/
def Triple
    (pre : State → Prop) (computation : Journaled Event State Failure Value)
    (post : Value → State → Prop) (failed : State → Prop) : Prop :=
  ∀ state, pre state →
    match (computation state).result with
    | .ok value => post value (computation state).state
    | .error _ => failed (computation state).state

namespace Triple

variable {pre failed : State → Prop} {post : Value → State → Prop}
  {computation : Journaled Event State Failure Value}

/-- What holds after a return and after a failure holds in any case. -/
theorem always
    {holds : State → Prop}
    (triple : Triple pre computation (fun _ => holds) holds)
    {state : State} (start : pre state) :
    holds (computation state).state := by
  have reached := triple state start
  split at reached
  · exact reached
  · exact reached

theorem strengthen
    {pre' : State → Prop} (triple : Triple pre computation post failed)
    (before : ∀ state, pre' state → pre state) :
    Triple pre' computation post failed :=
  fun state start => triple state (before state start)

end Triple

section Rules

variable {failed : State → Prop}

theorem triple_pure
    {pre : State → Prop} {post : Value → State → Prop} {value : Value}
    (reached : ∀ state, pre state → post value state) :
    Triple pre (pure value : Journaled Event State Failure Value) post
      failed :=
  reached

/-- After a read the state is the value that was read. -/
theorem triple_bind_read
    {pre : State → Prop} {post : Next → State → Prop}
    {next : State → Journaled Event State Failure Next}
    (rest :
      ∀ value, pre value →
        Triple (fun state => state = value) (next value) post failed) :
    Triple pre (Journaled.read >>= next) post failed :=
  fun state holds => rest state holds state rfl

theorem triple_modify
    {pre : State → Prop} (post : State → Prop) {change : State → State}
    (changed : ∀ state, pre state → post (change state)) :
    Triple pre
      (Journaled.modify change : Journaled Event State Failure Unit)
      (fun _ => post) failed :=
  changed

theorem triple_perform
    {pre post : State → Prop} {event : Event} {change : State → State}
    (changed : ∀ state, pre state → post (change state)) :
    Triple pre
      (Journaled.perform event change :
        Journaled Event State Failure Unit)
      (fun _ => post) failed :=
  changed

theorem triple_bind
    {pre : State → Prop} {middle : Value → State → Prop}
    {post : Next → State → Prop}
    {computation : Journaled Event State Failure Value}
    {next : Value → Journaled Event State Failure Next}
    (first : Triple pre computation middle failed)
    (second : ∀ value, Triple (middle value) (next value) post failed) :
    Triple pre (computation >>= next) post failed := by
  intro state start
  have reached := first state start
  rw [Journaled.bind_apply]
  generalize computation state = outcome at reached ⊢
  obtain ⟨result, after, journal⟩ := outcome
  cases result with
  | ok value =>
      exact second value after reached
  | error failure =>
      exact reached

theorem triple_ite
    {pre : State → Prop} {post : Value → State → Prop}
    {condition : Prop} [Decidable condition]
    {yes no : Journaled Event State Failure Value}
    (whenYes : condition → Triple pre yes post failed)
    (whenNo : ¬ condition → Triple pre no post failed) :
    Triple pre (if condition then yes else no) post failed := by
  split
  case isTrue holds =>
    exact whenYes holds
  case isFalse fails =>
    exact whenNo fails

/-- The loop rule. -/
theorem triple_forEach
    {Item : Type} {invariant : State → Prop}
    {body : Item → Journaled Event State Failure Unit} {items : List Item}
    (each :
      ∀ item ∈ items,
        Triple invariant (body item) (fun _ => invariant) failed) :
    Triple invariant (Journaled.forEach body items)
      (fun _ => invariant) failed := by
  induction items with
  | nil =>
      exact fun _ holds => holds
  | cons item rest inductionHypothesis =>
      exact triple_bind (each item List.mem_cons_self) fun _ =>
        inductionHypothesis fun other member =>
          each other (List.mem_cons_of_mem item member)

end Rules

end ShardedKvStore.Foundation

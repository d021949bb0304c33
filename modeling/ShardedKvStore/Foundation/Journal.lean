import Mathlib.Data.List.TakeDrop
import Mathlib.Logic.Function.Basic

/-!
# Journaled computations and crash cuts

A journaled computation runs over a volatile state, may stop with a failure,
and leaves a journal: the list of the atomic events it performed, in order.  A
failure undoes nothing, so the state and the journal of a failed computation
are the ones reached when it stopped.

A crash keeps a prefix of the journal.  `CrashSafe` says that a property of the
durable store holds after every such prefix; it distributes over concatenation,
which is how the crash points of a long operation are split into the crash
points of its parts.
-/

namespace ShardedKvStore.Foundation

/-- What a journaled computation leaves behind. -/
structure Outcome (Event State Failure Value : Type) where
  result : Except Failure Value
  state : State
  journal : List Event

/-- A computation over `State` that records the events it performs. -/
def Journaled (Event State Failure Value : Type) : Type :=
  State → Outcome Event State Failure Value

variable {Event State Failure Value Next : Type}

namespace Outcome

/-- Put the events of an earlier computation in front of the journal. -/
def prepend
    (earlier : List Event) (outcome : Outcome Event State Failure Value) :
    Outcome Event State Failure Value :=
  { outcome with journal := earlier ++ outcome.journal }

/-- Continue after an outcome; a failure skips the continuation. -/
def andThen
    (outcome : Outcome Event State Failure Value)
    (next : Value → Journaled Event State Failure Next) :
    Outcome Event State Failure Next :=
  match outcome.result with
  | .ok value => (next value outcome.state).prepend outcome.journal
  | .error failure => ⟨.error failure, outcome.state, outcome.journal⟩

@[simp]
theorem prepend_mk
    (earlier journal : List Event) (result : Except Failure Value)
    (state : State) :
    (Outcome.mk result state journal).prepend earlier =
      ⟨result, state, earlier ++ journal⟩ :=
  rfl

@[simp]
theorem prepend_result
    (earlier : List Event) (outcome : Outcome Event State Failure Value) :
    (outcome.prepend earlier).result = outcome.result :=
  rfl

@[simp]
theorem prepend_state
    (earlier : List Event) (outcome : Outcome Event State Failure Value) :
    (outcome.prepend earlier).state = outcome.state :=
  rfl

@[simp]
theorem prepend_journal
    (earlier : List Event) (outcome : Outcome Event State Failure Value) :
    (outcome.prepend earlier).journal = earlier ++ outcome.journal :=
  rfl

@[simp]
theorem prepend_nil (outcome : Outcome Event State Failure Value) :
    outcome.prepend [] = outcome :=
  rfl

@[simp]
theorem prepend_prepend
    (first second : List Event)
    (outcome : Outcome Event State Failure Value) :
    (outcome.prepend second).prepend first =
      outcome.prepend (first ++ second) := by
  simp [prepend, List.append_assoc]

@[simp]
theorem andThen_ok
    (value : Value) (state : State) (journal : List Event)
    (next : Value → Journaled Event State Failure Next) :
    (Outcome.mk (.ok value) state journal).andThen next =
      (next value state).prepend journal :=
  rfl

@[simp]
theorem andThen_error
    (failure : Failure) (state : State) (journal : List Event)
    (next : Value → Journaled Event State Failure Next) :
    (Outcome.mk (.error failure) state journal).andThen next =
      ⟨.error failure, state, journal⟩ :=
  rfl

end Outcome

namespace Journaled

instance : Monad (Journaled Event State Failure) where
  pure value := fun state => ⟨.ok value, state, []⟩
  bind computation next := fun state => (computation state).andThen next

/-- The current state. -/
def read : Journaled Event State Failure State :=
  fun state => ⟨.ok state, state, []⟩

/-- Change the volatile state without performing an event. -/
def modify (change : State → State) : Journaled Event State Failure Unit :=
  fun state => ⟨.ok (), change state, []⟩

/-- Perform one event, with its effect on the state. -/
def perform (event : Event) (change : State → State) :
    Journaled Event State Failure Unit :=
  fun state => ⟨.ok (), change state, [event]⟩

/-- Stop with a failure. -/
def fail (failure : Failure) : Journaled Event State Failure Value :=
  fun state => ⟨.error failure, state, []⟩

/-- Run the body for each item in turn. -/
def forEach {Item : Type}
    (body : Item → Journaled Event State Failure Unit) :
    List Item → Journaled Event State Failure Unit
  | [] => pure ()
  | item :: rest => do
      body item
      forEach body rest

@[simp]
theorem pure_apply (value : Value) (state : State) :
    (pure value : Journaled Event State Failure Value) state =
      ⟨.ok value, state, []⟩ :=
  rfl

@[simp]
theorem bind_apply
    (computation : Journaled Event State Failure Value)
    (next : Value → Journaled Event State Failure Next) (state : State) :
    (computation >>= next) state = (computation state).andThen next :=
  rfl

@[simp]
theorem read_apply (state : State) :
    (read : Journaled Event State Failure State) state =
      ⟨.ok state, state, []⟩ :=
  rfl

@[simp]
theorem modify_apply (change : State → State) (state : State) :
    (modify change : Journaled Event State Failure Unit) state =
      ⟨.ok (), change state, []⟩ :=
  rfl

@[simp]
theorem perform_apply
    (event : Event) (change : State → State) (state : State) :
    (perform event change : Journaled Event State Failure Unit) state =
      ⟨.ok (), change state, [event]⟩ :=
  rfl

@[simp]
theorem fail_apply (failure : Failure) (state : State) :
    (fail failure : Journaled Event State Failure Value) state =
      ⟨.error failure, state, []⟩ :=
  rfl

@[simp]
theorem ite_apply
    (condition : Prop) [Decidable condition]
    (yes no : Journaled Event State Failure Value) (state : State) :
    (if condition then yes else no) state =
      if condition then yes state else no state := by
  split <;> rfl

end Journaled

/-! ## Computations that mirror a store

The durable store is a part of the state.  A computation mirrors it when the
only changes it makes to the store are the ones its journal records. -/

section Mirrors

variable {Store : Type} (view : State → Store)
  (perform : Store → Event → Store)

/-- The store after the computation is the store before it, changed by the
events of the journal. -/
def Mirrors (computation : Journaled Event State Failure Value) : Prop :=
  ∀ state,
    view (computation state).state =
      (computation state).journal.foldl perform (view state)

variable {view perform}

theorem mirrors_pure (value : Value) :
    Mirrors view perform
      (pure value : Journaled Event State Failure Value) :=
  fun _ => rfl

theorem mirrors_read :
    Mirrors view perform
      (Journaled.read : Journaled Event State Failure State) :=
  fun _ => rfl

theorem mirrors_fail (failure : Failure) :
    Mirrors view perform
      (Journaled.fail failure : Journaled Event State Failure Value) :=
  fun _ => rfl

theorem mirrors_modify
    {change : State → State}
    (untouched : ∀ state, view (change state) = view state) :
    Mirrors view perform
      (Journaled.modify change : Journaled Event State Failure Unit) :=
  untouched

theorem mirrors_perform
    {event : Event} {change : State → State}
    (performed : ∀ state, view (change state) = perform (view state) event) :
    Mirrors view perform
      (Journaled.perform event change :
        Journaled Event State Failure Unit) :=
  performed

theorem mirrors_bind
    {computation : Journaled Event State Failure Value}
    {next : Value → Journaled Event State Failure Next}
    (first : Mirrors view perform computation)
    (second : ∀ value, Mirrors view perform (next value)) :
    Mirrors view perform (computation >>= next) := by
  intro state
  rw [Journaled.bind_apply]
  unfold Outcome.andThen
  split
  · rw [Outcome.prepend_state, Outcome.prepend_journal,
      List.foldl_append, ← first state]
    exact second _ _
  · exact first state

theorem mirrors_ite
    {condition : Prop} [Decidable condition]
    {yes no : Journaled Event State Failure Value}
    (whenYes : Mirrors view perform yes)
    (whenNo : Mirrors view perform no) :
    Mirrors view perform (if condition then yes else no) := by
  split
  · exact whenYes
  · exact whenNo

theorem mirrors_forEach
    {Item : Type} {body : Item → Journaled Event State Failure Unit}
    (each : ∀ item, Mirrors view perform (body item)) (items : List Item) :
    Mirrors view perform (Journaled.forEach body items) := by
  induction items with
  | nil =>
      exact mirrors_pure ()
  | cons item rest inductionHypothesis =>
      exact mirrors_bind (each item) fun _ => inductionHypothesis

end Mirrors

/-! ## Counted events

Some of the events are counted.  The number of them a computation performs adds up
along it. -/

section Counted

variable (counted : Event → Bool)

/-- The computation performs at most `most` of the counted events. -/
def PerformsAtMost
    (most : Nat) (computation : Journaled Event State Failure Value) : Prop :=
  ∀ state, (computation state).journal.countP counted ≤ most

variable {counted} {most more : Nat}

theorem PerformsAtMost.mono
    {computation : Journaled Event State Failure Value}
    (performs : PerformsAtMost counted most computation)
    (atMost : most ≤ more) :
    PerformsAtMost counted more computation :=
  fun state => Nat.le_trans (performs state) atMost

theorem performsAtMost_pure (value : Value) :
    PerformsAtMost counted most
      (pure value : Journaled Event State Failure Value) :=
  fun _ => Nat.zero_le _

theorem performsAtMost_read :
    PerformsAtMost counted most
      (Journaled.read : Journaled Event State Failure State) :=
  fun _ => Nat.zero_le _

theorem performsAtMost_modify (change : State → State) :
    PerformsAtMost counted most
      (Journaled.modify change : Journaled Event State Failure Unit) :=
  fun _ => Nat.zero_le _

theorem performsAtMost_perform (event : Event) (change : State → State) :
    PerformsAtMost counted 1
      (Journaled.perform event change :
        Journaled Event State Failure Unit) :=
  fun _ => List.countP_le_length

theorem performsAtMost_bind
    {computation : Journaled Event State Failure Value}
    {next : Value → Journaled Event State Failure Next}
    (first : PerformsAtMost counted most computation)
    (second : ∀ value, PerformsAtMost counted more (next value)) :
    PerformsAtMost counted (most + more) (computation >>= next) := by
  intro state
  rw [Journaled.bind_apply]
  unfold Outcome.andThen
  split
  · rw [Outcome.prepend_journal, List.countP_append]
    exact Nat.add_le_add (first state) (second _ _)
  · exact Nat.le_trans (first state) (Nat.le_add_right _ _)

/-- What counts nothing may come first. -/
theorem performsAtMost_after
    {computation : Journaled Event State Failure Value}
    {next : Value → Journaled Event State Failure Next}
    (first : PerformsAtMost counted 0 computation)
    (second : ∀ value, PerformsAtMost counted most (next value)) :
    PerformsAtMost counted most (computation >>= next) :=
  (performsAtMost_bind first second).mono (Nat.le_of_eq (Nat.zero_add most))

/-- What counts nothing may come last. -/
theorem performsAtMost_before
    {computation : Journaled Event State Failure Value}
    {next : Value → Journaled Event State Failure Next}
    (first : PerformsAtMost counted most computation)
    (second : ∀ value, PerformsAtMost counted 0 (next value)) :
    PerformsAtMost counted most (computation >>= next) :=
  performsAtMost_bind first second

theorem performsAtMost_ite
    {condition : Prop} [Decidable condition]
    {yes no : Journaled Event State Failure Value}
    (whenYes : PerformsAtMost counted most yes)
    (whenNo : PerformsAtMost counted most no) :
    PerformsAtMost counted most (if condition then yes else no) := by
  split
  · exact whenYes
  · exact whenNo

theorem performsAtMost_forEach
    {Item : Type} {body : Item → Journaled Event State Failure Unit}
    (each : ∀ item, PerformsAtMost counted 0 (body item))
    (items : List Item) :
    PerformsAtMost counted most (Journaled.forEach body items) := by
  induction items with
  | nil =>
      exact performsAtMost_pure ()
  | cons item rest inductionHypothesis =>
      exact performsAtMost_after (each item) fun _ => inductionHypothesis

end Counted

/-! ## Crash cuts -/

section Crash

variable {Store : Type} {perform : Store → Event → Store}

/-- `Safe` holds of the store left by a crash after any prefix of `journal`. -/
def CrashSafe
    (perform : Store → Event → Store) (Safe : Store → Prop)
    (store : Store) (journal : List Event) : Prop :=
  ∀ cut, Safe ((journal.take cut).foldl perform store)

theorem crashSafe_nil {Safe : Store → Prop} {store : Store} :
    CrashSafe perform Safe store [] ↔ Safe store := by
  simp [CrashSafe]

theorem crashSafe_cons
    {Safe : Store → Prop} {store : Store}
    {event : Event} {rest : List Event} :
    CrashSafe perform Safe store (event :: rest) ↔
      Safe store ∧ CrashSafe perform Safe (perform store event) rest := by
  constructor
  · intro safe
    exact ⟨safe 0, fun cut => safe (cut + 1)⟩
  · rintro ⟨now, later⟩ cut
    cases cut with
    | zero =>
        exact now
    | succ remaining =>
        exact later remaining

theorem CrashSafe.start
    {Safe : Store → Prop} {store : Store} {journal : List Event}
    (safe : CrashSafe perform Safe store journal) :
    Safe store :=
  safe 0

theorem CrashSafe.finish
    {Safe : Store → Prop} {store : Store} {journal : List Event}
    (safe : CrashSafe perform Safe store journal) :
    Safe (journal.foldl perform store) := by
  simpa using safe journal.length

/-- The crash points of two journals in sequence are those of the first and,
from the store the first leaves, those of the second. -/
theorem crashSafe_append
    {Safe : Store → Prop} {store : Store} {first second : List Event} :
    CrashSafe perform Safe store (first ++ second) ↔
      CrashSafe perform Safe store first ∧
        CrashSafe perform Safe (first.foldl perform store) second := by
  induction first generalizing store with
  | nil =>
      constructor
      · intro safe
        exact ⟨crashSafe_nil.mpr safe.start, safe⟩
      · exact fun both => both.2
  | cons event rest inductionHypothesis =>
      simp only [List.cons_append, crashSafe_cons, List.foldl_cons,
        inductionHypothesis, and_assoc]

theorem CrashSafe.mono
    {Safe Weaker : Store → Prop} {store : Store} {journal : List Event}
    (safe : CrashSafe perform Safe store journal)
    (weaken : ∀ reached, Safe reached → Weaker reached) :
    CrashSafe perform Weaker store journal :=
  fun cut => weaken _ (safe cut)

/-! A crash point may also be described by the events before it.  `watch` carries
an observation of them along with the store. -/

variable {Note : Type}

/-- Perform an event and observe it. -/
def watch
    (perform : Store → Event → Store) (observe : Note → Event → Note)
    (watched : Store × Note) (event : Event) : Store × Note :=
  (perform watched.1 event, observe watched.2 event)

theorem foldl_watch
    (perform : Store → Event → Store) (observe : Note → Event → Note)
    (store : Store) (note : Note) (journal : List Event) :
    journal.foldl (watch perform observe) (store, note) =
      (journal.foldl perform store, journal.foldl observe note) := by
  induction journal generalizing store note with
  | nil =>
      rfl
  | cons event rest inductionHypothesis =>
      exact inductionHypothesis (perform store event) (observe note event)

theorem CrashSafe.watched
    {Safe : Store → Prop} {store : Store} {journal : List Event}
    (safe : CrashSafe perform Safe store journal)
    (observe : Note → Event → Note) (note : Note) :
    CrashSafe (watch perform observe) (fun reached => Safe reached.1)
      (store, note) journal := by
  intro cut
  rw [foldl_watch]
  exact safe cut

theorem CrashSafe.unwatched
    {observe : Note → Event → Note} {Safe : Store → Prop}
    {store : Store} {note : Note} {journal : List Event}
    (safe :
      CrashSafe (watch perform observe) (fun reached => Safe reached.1)
        (store, note) journal) :
    CrashSafe perform Safe store journal := by
  intro cut
  have reached := safe cut
  rwa [foldl_watch] at reached

end Crash

end ShardedKvStore.Foundation

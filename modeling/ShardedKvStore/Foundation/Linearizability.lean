import Mathlib.Data.List.Nodup
import ShardedKvStore.Foundation.Runs

/-!
# Linearizability

Operations on a shared object are called and answered while others are under way.
Their history is linearizable if they can be put in one order that the sequential
object allows, in which every answered operation has its answer, and no operation
stands in front of one that was answered before it was called.

The order can be built along with the history: calls and answers extend the one,
the moment in which an operation takes effect extends the other.
-/

namespace ShardedKvStore.Foundation

variable {State Call Answer : Type}

/-- What the clients see.  Every operation has a number. -/
inductive ClientEvent (Call Answer : Type) where
  | called (number : Nat) (call : Call)
  | answered (number : Nat) (answer : Answer)

/-- An operation with its answer. -/
structure AnsweredCall (Call Answer : Type) where
  number : Nat
  call : Call
  answer : Answer

/-- An operation was answered before another was called. -/
def AnsweredBefore
    (history : List (ClientEvent Call Answer)) (first second : Nat) : Prop :=
  ∃ earlier later answer call,
    history = earlier ++ later ∧
      ClientEvent.answered first answer ∈ earlier ∧
      ClientEvent.called second call ∈ later

section AnsweredBefore

variable {history : List (ClientEvent Call Answer)} {first second : Nat}

private theorem answeredBefore_concat
    {event : ClientEvent Call Answer}
    (before : AnsweredBefore (history ++ [event]) first second) :
    AnsweredBefore history first second ∨
      ∃ call, event = .called second call := by
  obtain ⟨earlier, later, answer, call, same, isAnswered, isCalled⟩ := before
  rcases List.eq_nil_or_concat later with rfl | ⟨later, last, rfl⟩
  · cases isCalled
  rw [List.concat_eq_append, ← List.append_assoc] at same
  obtain ⟨sameHistory, sameEvent⟩ := List.append_inj' same rfl
  rw [List.concat_eq_append] at isCalled
  rcases List.mem_append.mp isCalled with inside | isLast
  · exact
      Or.inl ⟨earlier, later, answer, call, sameHistory, isAnswered, inside⟩
  · have isEvent : event = last := List.singleton_inj.mp sameEvent
    exact Or.inr ⟨call, isEvent.trans (List.mem_singleton.mp isLast).symm⟩

/-- A call comes after the answers before it only. -/
theorem AnsweredBefore.of_called
    {number : Nat} {call : Call}
    (before :
      AnsweredBefore (history ++ [.called number call]) first second) :
    AnsweredBefore history first second ∨ second = number := by
  rcases answeredBefore_concat before with before | ⟨_, same⟩
  · exact Or.inl before
  · cases same
    exact Or.inr rfl

/-- An answer comes before the calls after it only. -/
theorem AnsweredBefore.of_answered
    {number : Nat} {answer : Answer}
    (before :
      AnsweredBefore (history ++ [.answered number answer]) first second) :
    AnsweredBefore history first second := by
  rcases answeredBefore_concat before with before | ⟨_, same⟩
  · exact before
  · cases same

theorem AnsweredBefore.exists_answer
    (before : AnsweredBefore history first second) :
    ∃ answer, ClientEvent.answered first answer ∈ history := by
  obtain ⟨earlier, later, answer, _, rfl, isAnswered, _⟩ := before
  exact ⟨answer, List.mem_append_left later isAnswered⟩

end AnsweredBefore

/-- The operations of a history in one order, and the state they lead to. -/
structure Linearization
    (spec : State → Call → Answer → State → Prop) (start : State)
    (history : List (ClientEvent Call Answer))
    (order : List (AnsweredCall Call Answer)) (final : State) : Prop where
  allowed :
    Run (fun state => state = start)
      (fun state step next => spec state step.call step.answer next)
      order final
  once : (order.map AnsweredCall.number).Nodup
  called : ∀ step ∈ order, .called step.number step.call ∈ history
  answered :
    ∀ number answer, .answered number answer ∈ history →
      ∃ step ∈ order, step.number = number ∧ step.answer = answer
  inTime :
    order.Pairwise fun first second =>
      ¬ AnsweredBefore history second.number first.number

namespace Linearization

variable {spec : State → Call → Answer → State → Prop}
  {start final next : State} {history : List (ClientEvent Call Answer)}
  {order : List (AnsweredCall Call Answer)} {number : Nat} {call : Call}
  {answer : Answer}

/-- Nothing has happened yet. -/
theorem empty : Linearization spec start [] [] start where
  allowed := .initial rfl
  once := List.nodup_nil
  called := nofun
  answered := nofun
  inTime := List.Pairwise.nil

/-- An operation is called. -/
theorem extend_called
    (linearization : Linearization spec start history order final)
    (fresh : number ∉ order.map AnsweredCall.number) :
    Linearization spec start (history ++ [.called number call]) order
      final where
  allowed := linearization.allowed
  once := linearization.once
  called := fun step member =>
    List.mem_append_left _ (linearization.called step member)
  answered := fun other answer isAnswered => by
    rcases List.mem_append.mp isAnswered with inside | isLast
    · exact linearization.answered other answer inside
    · cases List.mem_singleton.mp isLast
  inTime := by
    refine linearization.inTime.imp_of_mem ?_
    intro first second firstMember _ inTime before
    rcases before.of_called with before | isCalled
    · exact inTime before
    · exact fresh (isCalled ▸ List.mem_map_of_mem firstMember)

/-- An operation that was called takes effect. -/
theorem extend_effect
    (linearization : Linearization spec start history order final)
    (isCalled : .called number call ∈ history)
    (notYet : number ∉ order.map AnsweredCall.number)
    (effect : spec final call answer next) :
    Linearization spec start history (order ++ [⟨number, call, answer⟩])
      next where
  allowed := linearization.allowed.extend effect
  once := by
    rw [List.map_append, List.map_singleton, ← List.concat_eq_append]
    exact List.Nodup.concat notYet linearization.once
  called := forall_mem_concat_iff.mpr ⟨linearization.called, isCalled⟩
  answered := fun other answer isAnswered => by
    obtain ⟨step, member, isStep⟩ :=
      linearization.answered other answer isAnswered
    exact ⟨step, List.mem_append_left _ member, isStep⟩
  inTime := by
    refine
      List.pairwise_append.mpr
        ⟨linearization.inTime, List.pairwise_singleton _ _, ?_⟩
    intro first firstMember second isLast before
    -- the operation was not answered yet, so it was not answered before another
    rw [List.mem_singleton.mp isLast] at before
    obtain ⟨answer, isAnswered⟩ := before.exists_answer
    obtain ⟨step, member, isNumber, _⟩ :=
      linearization.answered number answer isAnswered
    exact notYet (isNumber ▸ List.mem_map_of_mem member)

/-- An operation that has taken effect is answered. -/
theorem extend_answered
    (linearization : Linearization spec start history order final)
    (tookEffect : ⟨number, call, answer⟩ ∈ order) :
    Linearization spec start (history ++ [.answered number answer]) order
      final where
  allowed := linearization.allowed
  once := linearization.once
  called := fun step member =>
    List.mem_append_left _ (linearization.called step member)
  answered := fun other answer' isAnswered => by
    rcases List.mem_append.mp isAnswered with inside | isLast
    · exact linearization.answered other answer' inside
    · cases List.mem_singleton.mp isLast
      exact ⟨_, tookEffect, rfl, rfl⟩
  inTime :=
    linearization.inTime.imp fun inTime before =>
      inTime before.of_answered

end Linearization

end ShardedKvStore.Foundation

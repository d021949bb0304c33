import Mathlib.Data.List.FinRange
import ShardedKvStore.Foundation.Json

/-!
# Reading documents

How a program takes a JSON value apart: members by their names, strings by the bytes
they stand for, whole numbers by their values, arrays element by element.
-/

namespace ShardedKvStore.Foundation

/-- The whole number that a sign and decimal digits write. -/
def integerValue : List UInt8 → Option Int
  | 45 :: digits =>
      (digitsValue digits).map fun (number : Nat) => -(number : Int)
  | digits => (digitsValue digits).map fun (number : Nat) => (number : Int)

/-- Lists that are given by functions are related when the functions are. -/
theorem forall₂_ofFn
    {Left Right : Type} {Related : Left → Right → Prop} {count : Nat}
    {left : Fin count → Left} {right : Fin count → Right}
    (related : ∀ position, Related (left position) (right position)) :
    List.Forall₂ Related (List.ofFn left) (List.ofFn right) := by
  rw [List.ofFn_eq_map, List.ofFn_eq_map, List.forall₂_map_left_iff,
    List.forall₂_map_right_iff]
  exact List.forall₂_same.mpr fun position _ => related position

theorem exists_forall₂
    {Left Right : Type} {Related : Left → Right → Prop}
    {rights : List Right}
    (each : ∀ right ∈ rights, ∃ left, Related left right) :
    ∃ lefts, List.Forall₂ Related lefts rights := by
  induction rights with
  | nil =>
      exact ⟨[], .nil⟩
  | cons right rest inductionHypothesis =>
      obtain ⟨⟨left, related⟩, others⟩ := List.forall_mem_cons.mp each
      obtain ⟨lefts, all⟩ := inductionHypothesis others
      exact ⟨left :: lefts, .cons related all⟩

namespace Json

/-- The first member with a name. -/
def lookup (name : List UInt8) : Json → Option Json
  | .object members =>
      (members.find? fun member => unescape member.1 = some name).map
        Prod.snd
  | _ => none

/-- The bytes of a string. -/
def text : Json → Option (List UInt8)
  | .string characters => unescape characters
  | _ => none

/-- The value of a whole number. -/
def integer : Json → Option Int
  | .number digits => integerValue digits
  | _ => none

def flag : Json → Option Bool
  | .boolean value => some value
  | _ => none

/-- The elements of an array, each read in the same way. -/
def list {Value : Type} (read : Json → Option Value) :
    Json → Option (List Value)
  | .array elements => elements.mapM read
  | _ => none

end Json

end ShardedKvStore.Foundation

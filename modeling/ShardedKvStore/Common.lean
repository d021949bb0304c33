import Mathlib.Data.List.TakeWhile
import Mathlib.Data.Nat.Digits.Defs
import Mathlib.Data.Nat.Digits.Lemmas

/-!
# Byte strings, routing hash and operation results

The C++ `std::string` is a byte string.  SQLite receives keys and identifiers
through `c_str()` with length `-1`, so what reaches a TEXT column is the part
before the first NUL byte; `cString` is that part.
-/

namespace ShardedKvStore

/-- A `std::string`. -/
abbrev Bytes : Type :=
  List UInt8

/-- The bytes of an ASCII literal. -/
def bytes (text : String) : Bytes :=
  text.toList.map fun character => UInt8.ofNat character.toNat

/-- The C string of a byte string: everything before the first NUL. -/
def cString (text : Bytes) : Bytes :=
  text.takeWhile (fun byte => byte != 0)

/-- A byte string without NUL bytes. -/
def NulFree (text : Bytes) : Prop :=
  0 ∉ text

instance (text : Bytes) : Decidable (NulFree text) :=
  inferInstanceAs (Decidable (0 ∉ text))

theorem cString_of_nulFree {text : Bytes} (nulFree : NulFree text) :
    cString text = text := by
  unfold cString
  rw [List.takeWhile_eq_self_iff]
  intro byte member
  have nonzero : byte ≠ 0 := fun zero => nulFree (zero ▸ member)
  simpa using nonzero

theorem cString_nulFree (text : Bytes) : NulFree (cString text) := by
  intro member
  have kept := List.mem_takeWhile_imp member
  simp at kept

@[simp]
theorem cString_cString (text : Bytes) :
    cString (cString text) = cString text :=
  cString_of_nulFree (cString_nulFree text)

/-- `std::to_string` of an unsigned number. -/
def toDecimal (number : Nat) : Bytes :=
  if number = 0 then
    [48]
  else
    (Nat.digits 10 number).reverse.map fun digit => UInt8.ofNat (48 + digit)

/-- Digits below ten have different bytes. -/
private theorem digitBytes_injective
    {left right : List Nat}
    (leftSmall : ∀ digit ∈ left, digit < 10)
    (rightSmall : ∀ digit ∈ right, digit < 10)
    (same :
      left.map (fun digit => UInt8.ofNat (48 + digit)) =
        right.map (fun digit => UInt8.ofNat (48 + digit))) :
    left = right := by
  induction left generalizing right with
  | nil =>
      simpa using same.symm
  | cons head tail inductionHypothesis =>
      cases right with
      | nil =>
          simp at same
      | cons other others =>
          simp only [List.map_cons, List.cons.injEq] at same
          have headSmall := leftSmall head List.mem_cons_self
          have otherSmall := rightSmall other List.mem_cons_self
          have heads : head = other := by
            have numbers := congrArg UInt8.toNat same.1
            simp only [UInt8.toNat_ofNat'] at numbers
            omega
          have tails : tail = others :=
            inductionHypothesis
              (fun digit member =>
                leftSmall digit (List.mem_cons_of_mem head member))
              (fun digit member =>
                rightSmall digit (List.mem_cons_of_mem other member))
              same.2
          rw [heads, tails]

/-- Zero is written as one digit, and a positive number never starts with it. -/
private theorem digits_ne_zero {number : Nat} (positive : number ≠ 0) :
    (Nat.digits 10 number).reverse ≠ [0] := by
  intro single
  have digitsZero : Nat.digits 10 number = [0] := by
    simpa using congrArg List.reverse single
  have back := Nat.ofDigits_digits 10 number
  rw [digitsZero] at back
  simp at back
  exact positive back.symm

theorem toDecimal_injective : Function.Injective toDecimal := by
  have digitsSmall (number : Nat) :
      ∀ digit ∈ (Nat.digits 10 number).reverse, digit < 10 :=
    fun digit member =>
      Nat.digits_lt_base (by decide) (List.mem_reverse.mp member)
  intro left right same
  unfold toDecimal at same
  have zeroShape :
      ([48] : Bytes) =
        [0].map (fun digit => UInt8.ofNat (48 + digit)) := by
    decide
  split at same <;> split at same
  case isTrue.isTrue leftZero rightZero =>
    rw [leftZero, rightZero]
  case isTrue.isFalse leftZero rightPositive =>
    rw [zeroShape] at same
    exact absurd
      (digitBytes_injective (by simp) (digitsSmall right) same).symm
      (digits_ne_zero rightPositive)
  case isFalse.isTrue leftPositive rightZero =>
    rw [zeroShape] at same
    exact absurd
      (digitBytes_injective (digitsSmall left) (by simp) same)
      (digits_ne_zero leftPositive)
  case isFalse.isFalse leftPositive rightPositive =>
    have reversed :=
      digitBytes_injective (digitsSmall left) (digitsSmall right) same
    exact Nat.digits_inj_iff.mp (List.reverse_injective reversed)

/-- A hexadecimal digit, in lower case. -/
def hexDigit (digit : Nat) : UInt8 :=
  if digit < 10 then UInt8.ofNat (48 + digit) else UInt8.ofNat (87 + digit)

/-- What `json_escape` writes for one byte. -/
def jsonEscapeByte (byte : UInt8) : Bytes :=
  if byte = 34 then
    bytes "\\\""
  else if byte = 92 then
    bytes "\\\\"
  else if byte = 8 then
    bytes "\\b"
  else if byte = 12 then
    bytes "\\f"
  else if byte = 10 then
    bytes "\\n"
  else if byte = 13 then
    bytes "\\r"
  else if byte = 9 then
    bytes "\\t"
  else if byte < 32 then
    bytes "\\u00" ++
      [hexDigit (byte.toNat / 16), hexDigit (byte.toNat % 16)]
  else
    [byte]

/-- `json_escape`. -/
def jsonEscape (value : Bytes) : Bytes :=
  value.flatMap jsonEscapeByte

/-- `fnv1a_64`, with the offset basis the source uses. -/
def fnv1a64 (value : Bytes) : UInt64 :=
  value.foldl
    (fun hash byte => (hash ^^^ byte.toUInt64) * 1099511628211)
    1469598103934665603

/-- `OperationResult`. -/
structure OperationResult where
  ok : Bool := false
  status : Nat := 500
  message : Bytes := []
  value : Bytes := []
  shard : Nat := 0
  leader : Bytes := []
  deriving DecidableEq, Repr

/-- The exceptions the modelled code throws. -/
inductive KvError where
  /-- `replica_count must be at least 1` -/
  | replicaCount
  /-- `shard_count must be at least 1` -/
  | shardCount
  /-- `append_local requires an online leader` -/
  | appendLocalRequiresLeader
  /-- `unknown raft command: ` followed by the command -/
  | unknownRaftCommand (command : Bytes)
  deriving DecidableEq, Repr

end ShardedKvStore

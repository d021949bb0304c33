import Mathlib.Data.Int.ModEq
import ShardedKvStore.Cluster

/-!
# Routing of keys

The documentation routes a key to the shard `FNV1a(key) % shard_count`.  The
source multiplies and exclusive-ors as FNV-1a does, but its offset basis lacks the
last digit of the published one.  The two bases are odd and differ in their second
bit.  Every step keeps that: the hashes always agree in the lowest bit and never
in the second one.
-/

namespace ShardedKvStore

/-- One byte of FNV-1a: exclusive or, then multiply modulo `2^64`. -/
def fnv1aStep (hash : UInt64) (byte : UInt8) : UInt64 :=
  (hash ^^^ byte.toUInt64) * 1099511628211

/-- The published 64-bit FNV-1a, with the offset basis
`14695981039346656037 = 0xcbf29ce484222325`. -/
def publishedFnv1a64 (value : Bytes) : UInt64 :=
  value.foldl fnv1aStep 0xcbf29ce484222325

/-- The shard of a key is the documented one. -/
def RoutedAsDocumented (shardCount : Nat) [NeZero shardCount] (key : Bytes) :
    Prop :=
  (Cluster.shardForKey key : Fin shardCount).val =
    (publishedFnv1a64 key).toNat % shardCount

instance (shardCount : Nat) [NeZero shardCount] (key : Bytes) :
    Decidable (RoutedAsDocumented shardCount key) :=
  inferInstanceAs (Decidable (_ = _))

theorem routedAsDocumented_iff
    {shardCount : Nat} [NeZero shardCount] {key : Bytes} :
    RoutedAsDocumented shardCount key ↔
      (fnv1a64 key).toNat ≡ (publishedFnv1a64 key).toNat
        [MOD shardCount] :=
  Iff.rfl

/-! ## The two lowest bits -/

/-- A step acts on the two lowest bits by themselves; the prime ends in the bits
of three. -/
private theorem fnv1aStep_mod_four (hash : UInt64) (byte : UInt8) :
    (fnv1aStep hash byte).toNat % 4 =
      ((hash.toNat % 4 ^^^ byte.toNat % 4) * 3) % 4 := by
  have wraps (product : Nat) : product % 2 ^ 64 % 4 = product % 4 :=
    Nat.mod_mod_of_dvd product (by decide)
  have lowest :
      (hash.toNat ^^^ byte.toNat) % 4 =
        hash.toNat % 4 ^^^ byte.toNat % 4 :=
    Nat.xor_mod_two_pow (n := 2)
  unfold fnv1aStep
  rw [UInt64.toNat_mul, wraps, UInt64.toNat_xor, UInt8.toNat_toUInt64,
    Nat.mul_mod, lowest]
  rfl

/-- The hashes differ in their second bit. -/
private def SecondBitDiffers (left right : UInt64) : Prop :=
  left.toNat % 4 = (right.toNat % 4 + 2) % 4

private theorem SecondBitDiffers.step
    {left right : UInt64} (differs : SecondBitDiffers left right)
    (byte : UInt8) :
    SecondBitDiffers (fnv1aStep left byte) (fnv1aStep right byte) := by
  have bits :
      ∀ low other : Fin 4,
        ((low.val + 2) % 4 ^^^ other.val) * 3 % 4 =
          ((low.val ^^^ other.val) * 3 % 4 + 2) % 4 := by
    decide
  have small (number : Nat) : number % 4 < 4 :=
    Nat.mod_lt number (by decide)
  unfold SecondBitDiffers at differs ⊢
  rw [fnv1aStep_mod_four, fnv1aStep_mod_four, differs]
  exact bits ⟨_, small right.toNat⟩ ⟨_, small byte.toNat⟩

private theorem SecondBitDiffers.foldl
    {left right : UInt64} (differs : SecondBitDiffers left right)
    (value : Bytes) :
    SecondBitDiffers (value.foldl fnv1aStep left)
      (value.foldl fnv1aStep right) := by
  induction value generalizing left right with
  | nil =>
      exact differs
  | cons byte rest inductionHypothesis =>
      exact inductionHypothesis (differs.step byte)

/-- The code's hash is never the published one, not even modulo four. -/
theorem fnv1a64_mod_four (key : Bytes) :
    (fnv1a64 key).toNat % 4 =
      ((publishedFnv1a64 key).toNat % 4 + 2) % 4 := by
  have bases : SecondBitDiffers 1469598103934665603 0xcbf29ce484222325 := by
    unfold SecondBitDiffers
    decide
  exact bases.foldl key

/-! ## Which shard counts are routed as documented -/

/-- Shards are found by the published hash exactly when there are at most two of
them.  With a multiple of four shards no key is in its documented shard. -/
theorem routing_is_fnv1a_iff (shardCount : Nat) [NeZero shardCount] :
    ((∀ key, RoutedAsDocumented shardCount key) ↔ shardCount ≤ 2) ∧
      (4 ∣ shardCount → ∀ key, ¬ RoutedAsDocumented shardCount key) := by
  have positive := NeZero.pos shardCount
  refine ⟨⟨fun routed => ?_, fun atMostTwo key => ?_⟩, fun four key routed => ?_⟩
  · -- The differences for the keys `a` and `b` have no common divisor but two.
    have first := (Nat.modEq_iff_dvd.mp (routed (bytes "a")))
    have second := (Nat.modEq_iff_dvd.mp (routed (bytes "b")))
    have firstDifference :
        ((publishedFnv1a64 (bytes "a")).toNat : Int) -
            (fnv1a64 (bytes "a")).toNat =
          7684919390297674630 := by
      decide +kernel
    have secondDifference :
        ((publishedFnv1a64 (bytes "b")).toNat : Int) -
            (fnv1a64 (bytes "b")).toNat =
          7684923788344187474 := by
      decide +kernel
    rw [firstDifference] at first
    rw [secondDifference] at second
    have common := Int.dvd_coe_gcd first second
    have gcd :
        (Int.gcd 7684919390297674630 7684923788344187474 : Int) = 2 := by
      decide +kernel
    rw [gcd] at common
    exact_mod_cast Int.le_of_dvd (by decide) common
  · have residues := fnv1a64_mod_four key
    have divides : shardCount ∣ 2 := by
      obtain rfl | rfl : shardCount = 1 ∨ shardCount = 2 := by omega
      · decide
      · decide
    have modTwo :
        (fnv1a64 key).toNat ≡ (publishedFnv1a64 key).toNat [MOD 2] := by
      unfold Nat.ModEq
      omega
    exact modTwo.of_dvd divides
  · have modFour := Nat.ModEq.of_dvd four (routedAsDocumented_iff.mp routed)
    have residues := fnv1a64_mod_four key
    unfold Nat.ModEq at modFour
    omega

/-- With two shards the key `a` is where the documentation says. -/
theorem two_shards_as_documented : RoutedAsDocumented 2 (bytes "a") :=
  (routing_is_fnv1a_iff 2).1.mpr (le_refl 2) (bytes "a")

/-- With the default of four shards the key `a` is in the wrong shard. -/
theorem default_misroutes : ¬ RoutedAsDocumented 4 (bytes "a") := by
  decide +kernel

end ShardedKvStore

import SampApi.XXHash.Memory

/-!
# Stripes

The part that the two hash functions of `src/share/xxhash.c` have in common: four accumulators, and
stripes of four words that are mixed into them. The words have `n` bytes, and a round mixes a word
into an accumulator.
-/

namespace SampApi.XXHash
open Lib

/-! ## Sizes of blocks -/

instance neZero_byte : NeZero 1 := ⟨by decide⟩

instance neZero_word32 : NeZero 4 := ⟨by decide⟩

instance neZero_word64 : NeZero 8 := ⟨by decide⟩

instance neZero_stripe32 : NeZero 16 := ⟨by decide⟩

instance neZero_stripe64 : NeZero 32 := ⟨by decide⟩

/-! ## Accumulators -/

variable {w : Nat}

/-- The accumulators (source `v1` to `v4`). -/
structure Accs (w : Nat) where
  v1 : BitVec w
  v2 : BitVec w
  v3 : BitVec w
  v4 : BitVec w
  deriving DecidableEq, Repr

namespace Accs

/-- The accumulators at the start, with the first two primes of the hash function. -/
def init (p1 p2 seed : BitVec w) : Accs w := ⟨seed + p1 + p2, seed + p2, seed + 0, seed - p1⟩

/-- The sum of the rotated accumulators. -/
def merge (v : Accs w) : BitVec w := rotl v.v1 1 + rotl v.v2 7 + rotl v.v3 12 + rotl v.v4 18

end Accs

variable (n : Nat) (round : BitVec w → BitVec w → BitVec w)

/-- Reads a stripe and mixes it in (source the body of the loops over stripes). -/
def stripe (get : Nat → Option (BitVec w)) (p : Nat) (v : Accs w) : Option (Accs w) := do
  let v1 := round v.v1 (← get p)
  let v2 := round v.v2 (← get (p + n))
  let v3 := round v.v3 (← get (p + 2 * n))
  let v4 := round v.v4 (← get (p + 3 * n))
  return ⟨v1, v2, v3, v4⟩

/-- The word number `k` of some bytes. -/
def wordAt (w n k : Nat) (bs : List BYTE) : BitVec w := leWord w ((bs.drop (k * n)).take n)

/-- Mixes a stripe in. -/
def absorb (v : Accs w) (bs : List BYTE) : Accs w where
  v1 := round v.v1 (wordAt w n 0 bs)
  v2 := round v.v2 (wordAt w n 1 bs)
  v3 := round v.v3 (wordAt w n 2 bs)
  v4 := round v.v4 (wordAt w n 3 bs)

variable {n round} {A : Nat → Prop} {mem : Memory} {get : Nat → Option (BitVec w)}

/-- A stripe that is there is mixed in. -/
lemma stripe_eq (hA : ∀ p, A p → A (p + n))
    (hget : ∀ p bs, A p → bs.length = n → Holds mem p bs → get p = some (leWord w bs)) {p : Nat}
    {v : Accs w} {bs : List BYTE} (ha : A p) (hlen : bs.length = 4 * n) (h : Holds mem p bs) :
    stripe n round get p v = some (absorb n round v bs) := by
  have hword : ∀ k, k < 4 → A (p + k * n) → get (p + k * n) = some (wordAt w n k bs) := by
    intro k hk hk'
    have hle : k * n + n ≤ 4 * n := by
      rw [← Nat.succ_mul]
      exact Nat.mul_le_mul_right n hk
    refine hget _ _ hk' ?_ ((h.drop (by omega)).take n)
    rw [List.length_take, List.length_drop]
    omega
  have ha1 : A (p + 1 * n) := by
    rw [Nat.one_mul]
    exact hA p ha
  have ha2 : A (p + 2 * n) := by
    rw [Nat.succ_mul, ← Nat.add_assoc]
    exact hA _ ha1
  have ha3 : A (p + 3 * n) := by
    rw [Nat.succ_mul, ← Nat.add_assoc]
    exact hA _ ha2
  have h0 := hword 0 (by decide) (by rw [Nat.zero_mul]; exact ha)
  have h1 := hword 1 (by decide) ha1
  rw [Nat.zero_mul, Nat.add_zero] at h0
  rw [Nat.one_mul] at h1
  rw [stripe, h0, h1, hword 2 (by decide) ha2, hword 3 (by decide) ha3]
  rfl

end SampApi.XXHash

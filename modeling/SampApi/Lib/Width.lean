import Mathlib.Tactic

/-!
# Words of different widths

Machine words that are read as numbers in another way than they were written: an unsigned word as a
signed one, a word cut to fewer bits, a product in which bits are lost. Each lemma says exactly when
the number stays the same.
-/

namespace SampApi.Lib
variable {w : Nat}

/-- A signed word is the same number without its sign exactly if it is not negative. -/
lemma toNat_eq_toInt_iff (x : BitVec w) : (x.toNat : Int) = x.toInt ↔ 0 ≤ x.toInt := by
  have hlt := x.isLt
  rw [BitVec.toInt_eq_toNat_cond]
  split
  · exact iff_of_true rfl (Int.natCast_nonneg _)
  · apply iff_of_false
    · omega
    · omega

/-- A word is the same number with `v` bits exactly if it is less than `2 ^ v`. -/
lemma toNat_setWidth_eq_iff (x : BitVec w) (v : Nat) :
    (x.setWidth v).toNat = x.toNat ↔ x.toNat < 2 ^ v := by
  rw [BitVec.toNat_setWidth]
  constructor
  · intro h
    rw [← h]
    exact Nat.mod_lt _ (Nat.two_pow_pos v)
  · exact Nat.mod_eq_of_lt

/-- A signed word is a number exactly if the unsigned one is, and the number is in the lower half. -/
lemma toInt_eq_iff (x : BitVec w) (n : Nat) : x.toInt = n ↔ x.toNat = n ∧ 2 * n < 2 ^ w := by
  have hlt := x.isLt
  rw [BitVec.toInt_eq_toNat_cond]
  split
  · omega
  · omega

/-- A product of words is the product of the numbers, read as a signed word, exactly if that is in the
    lower half. -/
lemma toInt_mul_eq_iff (x y : BitVec w) :
    (x * y).toInt = x.toNat * y.toNat ↔ 2 * (x.toNat * y.toNat) < 2 ^ w := by
  rw [← Nat.cast_mul, toInt_eq_iff, BitVec.toNat_mul]
  apply and_iff_right_of_imp
  intro h
  exact Nat.mod_eq_of_lt (by omega)

end SampApi.Lib

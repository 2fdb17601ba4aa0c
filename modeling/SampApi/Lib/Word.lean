import Mathlib.Algebra.Group.Units.Basic
import Mathlib.Data.BitVec
import Mathlib.Tactic

/-!
# Words as they are mixed and stored

Operations on machine words that lose nothing: a rotation, a shift that is added to the word without
carry, and the product with a unit are injective. And words in memory: `leWord` is the word with given
bytes, the least significant one first; different bytes are different words (`leWord_injective`).
-/

namespace SampApi.Lib
variable {w : Nat}

/-! ## Mixing -/

/-- A word rotated to the left. -/
def rotl (x : BitVec w) (r : Nat) : BitVec w := x <<< r ||| x >>> (w - r)

/-- A word with its own upper bits added. -/
def xorShift (x : BitVec w) (k : Nat) : BitVec w := x ^^^ x >>> k

lemma getLsbD_rotl {x : BitVec w} {r i : Nat} (hr : r ≤ w) (hi : i < w) :
    (rotl x r).getLsbD i = if i < r then x.getLsbD (w - r + i) else x.getLsbD (i - r) := by
  rw [rotl, BitVec.getLsbD_or, BitVec.getLsbD_shiftLeft, BitVec.getLsbD_ushiftRight]
  by_cases h : i < r
  · simp [h]
  · have hge : x.getLsbD (w - r + i) = false := BitVec.getLsbD_of_ge x _ (by omega)
    simp [h, hi, hge]

/-- A rotation loses nothing. -/
lemma rotl_injective {r : Nat} (hr : r ≤ w) : Function.Injective fun x : BitVec w => rotl x r := by
  intro x y h
  have hbit : ∀ i, (rotl x r).getLsbD i = (rotl y r).getLsbD i := fun i =>
    congrArg (fun z : BitVec w => z.getLsbD i) h
  refine BitVec.eq_of_getLsbD_eq fun j hj => ?_
  by_cases hlow : j < w - r
  · have hj' := hbit (j + r)
    rw [getLsbD_rotl hr (by omega), getLsbD_rotl hr (by omega), if_neg (by omega), if_neg (by omega),
      Nat.add_sub_cancel] at hj'
    exact hj'
  · have hj' := hbit (j - (w - r))
    rw [getLsbD_rotl hr (by omega), getLsbD_rotl hr (by omega), if_pos (by omega), if_pos (by omega),
      Nat.add_sub_cancel' (by omega)] at hj'
    exact hj'

/-- A shift that is added without carry loses nothing: the uppermost bits are unchanged, and each bit
    below is recovered with those above it. -/
lemma xorShift_injective {k : Nat} (hk : 0 < k) :
    Function.Injective fun x : BitVec w => xorShift x k := by
  intro x y h
  have hbit : ∀ i, (xorShift x k).getLsbD i = (xorShift y k).getLsbD i := fun i =>
    congrArg (fun z : BitVec w => z.getLsbD i) h
  have hall : ∀ i, x.getLsbD i = y.getLsbD i := by
    intro i
    induction hm : w - i using Nat.strongRecOn generalizing i with
    | ind m ih =>
      by_cases hi : i < w
      · have habove := ih (w - (k + i)) (by omega) (k + i) rfl
        have hi' := hbit i
        rw [xorShift, xorShift, BitVec.getLsbD_xor, BitVec.getLsbD_xor, BitVec.getLsbD_ushiftRight,
          BitVec.getLsbD_ushiftRight, habove] at hi'
        exact Bool.xor_left_inj.1 hi'
      · rw [BitVec.getLsbD_of_ge x _ (by omega), BitVec.getLsbD_of_ge y _ (by omega)]
  exact BitVec.eq_of_getLsbD_eq fun i _ => hall i

/-! ## Words in memory -/

/-- The word with these bytes, the least significant one first. -/
def leWord (w : Nat) : List (BitVec 8) → BitVec w
  | [] => 0#w
  | b :: bs => b.setWidth w ||| leWord w bs <<< 8

/-- The bits of a word are those of its bytes. -/
lemma getLsbD_leWord (bs : List (BitVec 8)) (i : Nat) :
    (leWord w bs).getLsbD i = (decide (i < w) && (bs[i / 8]?.getD 0).getLsbD (i % 8)) := by
  induction bs generalizing i with
  | nil => simp [leWord]
  | cons b bs ih =>
    rw [leWord, BitVec.getLsbD_or, BitVec.getLsbD_setWidth, BitVec.getLsbD_shiftLeft, ih]
    by_cases hi : i < 8
    · have hdiv : i / 8 = 0 := Nat.div_eq_of_lt hi
      simp [hi, hdiv, Nat.mod_eq_of_lt hi]
    · have hdiv : i / 8 = (i - 8) / 8 + 1 := by omega
      have hmod : (i - 8) % 8 = i % 8 := by omega
      have hb : b.getLsbD i = false := BitVec.getLsbD_of_ge b i (by omega)
      by_cases hw : i < w
      · have hw' : i - 8 < w := by omega
        simp [hi, hb, hw, hw', hdiv, hmod]
      · simp [hw]

/-- Bytes that are different are different words, if they fit. -/
lemma leWord_injective {bs cs : List (BitVec 8)} (hlen : bs.length = cs.length)
    (hw : 8 * bs.length ≤ w) (h : leWord w bs = leWord w cs) : bs = cs := by
  refine List.ext_getElem hlen fun j hj hj' => ?_
  refine BitVec.eq_of_getLsbD_eq fun k hk => ?_
  have hbit : (leWord w bs).getLsbD (8 * j + k) = (leWord w cs).getLsbD (8 * j + k) :=
    congrArg (fun z : BitVec w => z.getLsbD (8 * j + k)) h
  have hdiv : (8 * j + k) / 8 = j := by omega
  have hmod : (8 * j + k) % 8 = k := by omega
  have hlt : 8 * j + k < w := by omega
  rw [getLsbD_leWord, getLsbD_leWord, hdiv, hmod, decide_eq_true hlt, Bool.true_and, Bool.true_and,
    List.getElem?_eq_getElem hj, List.getElem?_eq_getElem hj'] at hbit
  exact hbit

/-- The lowest `n` bytes of a word, the least significant one first. -/
def leBytes (n : Nat) (x : BitVec w) : List (BitVec 8) :=
  (List.range n).map fun i => (x >>> (8 * i)).setWidth 8

lemma length_leBytes (n : Nat) (x : BitVec w) : (leBytes n x).length = n := by
  rw [leBytes, List.length_map, List.length_range]

/-- A word is made of its bytes. -/
lemma leWord_leBytes {n : Nat} (hw : w ≤ 8 * n) (x : BitVec w) : leWord w (leBytes n x) = x := by
  refine BitVec.eq_of_getLsbD_eq fun i hi => ?_
  have hlt : i / 8 < n := by omega
  have hsum : 8 * (i / 8) + i % 8 = i := Nat.div_add_mod i 8
  have hmod : i % 8 < 8 := Nat.mod_lt i (Nat.succ_pos 7)
  rw [getLsbD_leWord, leBytes, List.getElem?_map, List.getElem?_range hlt, Option.map_some,
    Option.getD_some, BitVec.getLsbD_setWidth, BitVec.getLsbD_ushiftRight, hsum]
  simp [hi, hmod]

/-- Bytes that fit are those of their word. -/
lemma leBytes_leWord {n : Nat} {bs : List (BitVec 8)} (hlen : bs.length = n) (hw : 8 * n ≤ w) :
    leBytes n (leWord w bs) = bs := by
  subst hlen
  refine List.ext_getElem (length_leBytes _ _) fun j hj hj' => ?_
  refine BitVec.eq_of_getLsbD_eq fun k hk => ?_
  have hdiv : (8 * j + k) / 8 = j := by omega
  have hmod : (8 * j + k) % 8 = k := by omega
  have hlt : 8 * j + k < w := by omega
  simp only [leBytes, List.getElem_map, List.getElem_range, BitVec.getLsbD_setWidth,
    BitVec.getLsbD_ushiftRight, getLsbD_leWord, hdiv, hmod, hk, hlt, decide_true, Bool.true_and,
    List.getElem?_eq_getElem hj', Option.getD_some]

end SampApi.Lib

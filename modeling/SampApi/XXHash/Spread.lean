import SampApi.XXHash.Hash32

/-!
# What the 32-bit hash tells apart

Every step of the hash is a bijection of what it mixes into: the primes are odd, and rotations and
shifts lose nothing. So a difference that is in one word only is never lost: texts of one length that
differ in one byte, or within one word of four bytes, have different hashes (`XXH32_changed`). For the
same reason the seed of a text of less than sixteen bytes can be told from its hash (`XXH32_seed`).
-/

namespace SampApi.XXHash
open Lib Function

/-! ## Steps that lose nothing -/

lemma isUnit_PRIME32_1 : IsUnit PRIME32_1 := .of_mul_eq_one 244002641#32 (by decide)

lemma isUnit_PRIME32_2 : IsUnit PRIME32_2 := .of_mul_eq_one 3066638151#32 (by decide)

lemma isUnit_PRIME32_3 : IsUnit PRIME32_3 := .of_mul_eq_one 2828982549#32 (by decide)

lemma isUnit_PRIME32_4 : IsUnit PRIME32_4 := .of_mul_eq_one 2701016015#32 (by decide)

lemma isUnit_PRIME32_5 : IsUnit PRIME32_5 := .of_mul_eq_one 2923004241#32 (by decide)

namespace XXH32

lemma round_injective (x : U32) : Injective fun v => round v x :=
  isUnit_PRIME32_1.mul_left_injective.comp
    ((rotl_injective (by decide : 13 ≤ 32)).comp (add_left_injective _))

lemma round_input (v : U32) : Injective (round v) :=
  isUnit_PRIME32_1.mul_left_injective.comp
    ((rotl_injective (by decide : 13 ≤ 32)).comp
      ((add_right_injective v).comp isUnit_PRIME32_2.mul_left_injective))

lemma mixWord_injective (x : U32) : Injective fun h32 => mixWord h32 x :=
  isUnit_PRIME32_4.mul_left_injective.comp
    ((rotl_injective (by decide : 17 ≤ 32)).comp (add_left_injective _))

lemma mixWord_input (h32 : U32) : Injective (mixWord h32) :=
  isUnit_PRIME32_4.mul_left_injective.comp
    ((rotl_injective (by decide : 17 ≤ 32)).comp
      ((add_right_injective h32).comp isUnit_PRIME32_3.mul_left_injective))

lemma mixByte_injective (b : BYTE) : Injective fun h32 => mixByte h32 b :=
  isUnit_PRIME32_1.mul_left_injective.comp
    ((rotl_injective (by decide : 11 ≤ 32)).comp (add_left_injective _))

lemma setWidth_injective : Injective fun b : BYTE => b.setWidth 32 := by
  intro b c h
  refine BitVec.eq_of_toNat_eq ?_
  have h := congrArg BitVec.toNat h
  simp only [BitVec.toNat_setWidth] at h
  omega

lemma mixByte_input (h32 : U32) : Injective (mixByte h32) :=
  isUnit_PRIME32_1.mul_left_injective.comp
    ((rotl_injective (by decide : 11 ≤ 32)).comp
      ((add_right_injective h32).comp
        (isUnit_PRIME32_5.mul_left_injective.comp setWidth_injective)))

lemma avalanche_injective : Injective avalanche :=
  (xorShift_injective (by decide : 0 < 16)).comp
    (isUnit_PRIME32_3.mul_left_injective.comp
      ((xorShift_injective (by decide : 0 < 13)).comp
        (isUnit_PRIME32_2.mul_left_injective.comp (xorShift_injective (by decide : 0 < 15)))))

/-! ## The rest -/

lemma foldl_mixByte_injective (bs : List BYTE) : Injective fun h32 => bs.foldl mixByte h32 := by
  induction bs with
  | nil => exact injective_id
  | cons b bs ih => exact ih.comp (mixByte_injective b)

/-- Mixes the words of the rest in. -/
def mixWords (s : U32 × List BYTE) (rest : List BYTE) : U32 × List BYTE :=
  feed 4 (fun h32 bs => mixWord h32 (leWord 32 bs)) s rest

lemma finish_eq (h32 : U32) (rest : List BYTE) :
    finish h32 rest =
      avalanche ((mixWords (h32, []) rest).2.foldl mixByte (mixWords (h32, []) rest).1) := rfl

/-- Different hashes stay different. -/
lemma mixWords_ne {h k : U32} (hne : h ≠ k) (r rest : List BYTE) :
    (mixWords (h, r) rest).1 ≠ (mixWords (k, r) rest).1 ∧
      (mixWords (h, r) rest).2 = (mixWords (k, r) rest).2 := by
  refine feed_rel 4 (fun h32 bs => mixWord h32 (leWord 32 bs)) (R := fun h k => h ≠ k) ?_ hne r rest
  intro h k bs hne
  exact (mixWord_injective _).ne hne

/-- What is different before the rest is mixed in is different behind it. -/
lemma finish_injective (rest : List BYTE) : Injective fun h32 => finish h32 rest := by
  intro h k heq
  by_contra hne
  obtain ⟨hfst, hsnd⟩ := mixWords_ne hne [] rest
  have heq : (mixWords (h, []) rest).2.foldl mixByte _ = (mixWords (k, []) rest).2.foldl mixByte _ :=
    avalanche_injective heq
  rw [hsnd] at heq
  exact hfst (foldl_mixByte_injective _ heq)

/-- A word of the rest that is different makes a difference. -/
lemma finish_word {r a b : List BYTE} (hr : r.length % 4 = 0) (ha : a.length = 4) (hb : b.length = 4)
    (hne : a ≠ b) (h32 : U32) (t : List BYTE) :
    finish h32 (r ++ (a ++ t)) ≠ finish h32 (r ++ (b ++ t)) := by
  intro heq
  have hnil : (mixWords (h32, []) r).2 = [] := by
    refine List.eq_nil_of_length_eq_zero ?_
    rw [mixWords, feed_length_eq 4 _ (by decide), List.length_nil, Nat.zero_add, hr]
  -- the hash behind the word, and behind the rest
  have hword : ∀ c : List BYTE, c.length = 4 → mixWords (h32, []) (r ++ (c ++ t)) =
      mixWords (mixWord (mixWords (h32, []) r).1 (leWord 32 c), []) t := by
    intro c hc
    have hpair : mixWords (h32, []) r = ((mixWords (h32, []) r).1, []) := Prod.ext rfl hnil
    have hblock : mixWords ((mixWords (h32, []) r).1, []) c =
        (mixWord (mixWords (h32, []) r).1 (leWord 32 c), []) :=
      feed_block 4 _ (by rw [List.length_nil]; omega) (List.ne_nil_of_length_pos (by omega))
    rw [mixWords, feed_append, feed_append]
    show mixWords (mixWords (mixWords (h32, []) r) c) t = _
    rw [hpair, hblock]
  rw [finish_eq, finish_eq, hword a ha, hword b hb] at heq
  have hle : leWord 32 a ≠ leWord 32 b := fun h =>
    hne (leWord_injective (ha.trans hb.symm) (by omega) h)
  obtain ⟨hfst, hsnd⟩ := mixWords_ne ((mixWord_input (mixWords (h32, []) r).1).ne hle) [] t
  have heq := avalanche_injective heq
  rw [hsnd] at heq
  exact hfst (foldl_mixByte_injective _ heq)

/-- A byte behind the words of the rest that is different makes a difference. -/
lemma finish_byte {r : List BYTE} {x y : BYTE} {t : List BYTE}
    (hlt : r.length % 4 + (t.length + 1) < 4) (hne : x ≠ y) (h32 : U32) :
    finish h32 (r ++ x :: t) ≠ finish h32 (r ++ y :: t) := by
  intro heq
  have hlen : (mixWords (h32, []) r).2.length = r.length % 4 := by
    rw [mixWords, feed_length_eq 4 _ (by decide), List.length_nil, Nat.zero_add]
  have hshort : ∀ z, mixWords (h32, []) (r ++ z :: t) =
      ((mixWords (h32, []) r).1, (mixWords (h32, []) r).2 ++ z :: t) := by
    intro z
    rw [mixWords, feed_append]
    exact feed_short 4 _ (by rw [List.length_cons]; exact hlen.symm ▸ hlt)
  rw [finish_eq, finish_eq, hshort, hshort] at heq
  have heq := avalanche_injective heq
  simp only [List.foldl_append, List.foldl_cons] at heq
  exact hne (mixByte_input _ (foldl_mixByte_injective t heq))

end XXH32

/-! ## Stripes -/

variable {w : Nat}

/-- The accumulators differ in one of them only. -/
inductive Accs.Apart : Accs w → Accs w → Prop where
  | v1 {a a' b c d} : a ≠ a' → Apart ⟨a, b, c, d⟩ ⟨a', b, c, d⟩
  | v2 {a b b' c d} : b ≠ b' → Apart ⟨a, b, c, d⟩ ⟨a, b', c, d⟩
  | v3 {a b c c' d} : c ≠ c' → Apart ⟨a, b, c, d⟩ ⟨a, b, c', d⟩
  | v4 {a b c d d'} : d ≠ d' → Apart ⟨a, b, c, d⟩ ⟨a, b, c, d'⟩

/-- A difference in one accumulator shows in the sum. -/
lemma Accs.Apart.merge_ne {v u : Accs 32} (h : v.Apart u) : v.merge ≠ u.merge := by
  have hrot : ∀ r, r ≤ 32 → Injective fun x : U32 => rotl x r := fun r hr => rotl_injective hr
  cases h with
  | v1 hne =>
    intro h
    exact hne (hrot 1 (by decide) (add_right_cancel (add_right_cancel (add_right_cancel h))))
  | v2 hne =>
    intro h
    exact hne (hrot 7 (by decide) (add_left_cancel (add_right_cancel (add_right_cancel h))))
  | v3 hne =>
    intro h
    exact hne (hrot 12 (by decide) (add_left_cancel (add_right_cancel h)))
  | v4 hne =>
    intro h
    exact hne (hrot 18 (by decide) (add_left_cancel h))

/-- A word that is part of some bytes. -/
lemma wordAt_self {n k : Nat} {r a : List BYTE} (hr : r.length = k * n) (ha : a.length = n)
    (t : List BYTE) : wordAt w n k (r ++ (a ++ t)) = leWord w a := by
  rw [wordAt, ← hr, List.drop_left, ← ha, List.take_left]

/-- The other words of the bytes do not change with it. -/
lemma wordAt_other {n j k : Nat} {r a b : List BYTE} (hr : r.length = j * n) (ha : a.length = n)
    (hb : b.length = n) (hjk : k ≠ j) (t : List BYTE) :
    wordAt w n k (r ++ (a ++ t)) = wordAt w n k (r ++ (b ++ t)) := by
  rw [wordAt, wordAt]
  congr 1
  rcases Nat.lt_or_gt_of_ne hjk with hlt | hlt
  · have hle : k * n + n ≤ r.length := by
      rw [hr, ← Nat.succ_mul]
      exact Nat.mul_le_mul_right n hlt
    have hlen : n ≤ (r.drop (k * n)).length := by
      rw [List.length_drop]
      omega
    rw [List.drop_append_of_le_length (by omega), List.drop_append_of_le_length (by omega),
      List.take_append_of_le_length hlen, List.take_append_of_le_length hlen]
  · have hle : r.length + n ≤ k * n := by
      rw [hr, ← Nat.succ_mul]
      exact Nat.mul_le_mul_right n hlt
    have hdrop : ∀ c : List BYTE, c.length = n →
        (r ++ (c ++ t)).drop (k * n) = t.drop (k * n - (r.length + n)) := by
      intro c hc
      rw [← List.append_assoc, List.drop_append,
        List.drop_eq_nil_of_le (by rw [List.length_append]; omega), List.nil_append,
        List.length_append, hc]
    rw [hdrop a ha, hdrop b hb]

namespace XXH32

/-- A stripe that differs in one word makes one accumulator different. -/
lemma absorb_apart {k : Nat} (hk : k < 4) {r a b : List BYTE} (hr : r.length = k * 4)
    (ha : a.length = 4) (hb : b.length = 4) (hne : a ≠ b) (v : Accs 32) (t : List BYTE) :
    (absorb 4 round v (r ++ (a ++ t))).Apart (absorb 4 round v (r ++ (b ++ t))) := by
  have hle : leWord 32 a ≠ leWord 32 b := fun h =>
    hne (leWord_injective (ha.trans hb.symm) (by omega) h)
  have hself : wordAt 32 4 k (r ++ (a ++ t)) ≠ wordAt 32 4 k (r ++ (b ++ t)) := by
    rw [wordAt_self hr ha, wordAt_self hr hb]
    exact hle
  have hother : ∀ i, i ≠ k → wordAt 32 4 i (r ++ (a ++ t)) = wordAt 32 4 i (r ++ (b ++ t)) :=
    fun i hi => wordAt_other hr ha hb hi t
  rw [absorb, absorb]
  interval_cases k
  · rw [hother 1 (by decide), hother 2 (by decide), hother 3 (by decide)]
    exact .v1 ((round_input _).ne hself)
  · rw [hother 0 (by decide), hother 2 (by decide), hother 3 (by decide)]
    exact .v2 ((round_input _).ne hself)
  · rw [hother 0 (by decide), hother 1 (by decide), hother 3 (by decide)]
    exact .v3 ((round_input _).ne hself)
  · rw [hother 0 (by decide), hother 1 (by decide), hother 2 (by decide)]
    exact .v4 ((round_input _).ne hself)

/-- A difference in one accumulator stays there. -/
lemma absorb_same {v u : Accs 32} (bs : List BYTE) (h : v.Apart u) :
    (absorb 4 round v bs).Apart (absorb 4 round u bs) := by
  cases h with
  | v1 hne => exact .v1 ((round_injective _).ne hne)
  | v2 hne => exact .v2 ((round_injective _).ne hne)
  | v3 hne => exact .v3 ((round_injective _).ne hne)
  | v4 hne => exact .v4 ((round_injective _).ne hne)

end XXH32

/-! ## The hash -/

/-- A whole word that is different makes a difference. -/
lemma hash32_word {pre a b : List BYTE} (hpre : pre.length % 4 = 0) (ha : a.length = 4)
    (hb : b.length = 4) (hne : a ≠ b) (seed : U32) (suf : List BYTE) :
    hash32 seed (pre ++ (a ++ suf)) ≠ hash32 seed (pre ++ (b ++ suf)) := by
  have hlen : (pre ++ (a ++ suf)).length = (pre ++ (b ++ suf)).length := by
    simp only [List.length_append, ha, hb]
  generalize hs : XXH32.stripes seed pre = s
  obtain ⟨v, r⟩ := s
  have hr : r.length = pre.length % 16 := by
    have h := feed_length_eq 16 (absorb 4 XXH32.round) (s := XXH32.init seed) (r := []) (by decide) pre
    rw [List.length_nil, Nat.zero_add] at h
    rw [← h]
    exact congrArg (fun s : Accs 32 × List BYTE => s.2.length) hs.symm
  have hfeed : ∀ c, XXH32.stripes seed (pre ++ c) = feed 16 (absorb 4 XXH32.round) (v, r) c := by
    intro c
    rw [← hs, XXH32.stripes, feed_append]
    rfl
  rw [hash32, hash32, ← hlen, hfeed, hfeed]
  by_cases hlt : r.length + (4 + suf.length) < 16
  · -- the word is one of the rest
    have hshort : ∀ c : List BYTE, c.length = 4 →
        feed 16 (absorb 4 XXH32.round) (v, r) (c ++ suf) = (v, r ++ (c ++ suf)) := fun c hc =>
      feed_short 16 _ (by rw [List.length_append, hc]; exact hlt)
    rw [hshort a ha, hshort b hb]
    exact XXH32.finish_word (by omega) ha hb hne _ suf
  · -- the word is one of a stripe
    have hk : r.length = r.length / 4 * 4 := by omega
    have htake : (suf.take (12 - r.length)).length = 12 - r.length :=
      List.length_take_of_le (by omega)
    have hblock : ∀ c : List BYTE, c.length = 4 →
        feed 16 (absorb 4 XXH32.round) (v, r) (c ++ suf) =
          feed 16 (absorb 4 XXH32.round)
            (absorb 4 XXH32.round v (r ++ (c ++ suf.take (12 - r.length))), [])
            (suf.drop (12 - r.length)) := by
      intro c hc
      have hne : c ++ suf.take (12 - r.length) ≠ [] :=
        List.append_ne_nil_of_left_ne_nil (List.ne_nil_of_length_pos (by omega)) _
      rw [← feed_block 16 (absorb 4 XXH32.round)
        (by rw [List.length_append, hc, htake]; omega) hne, ← feed_append, List.append_assoc,
        List.take_append_drop]
    have hapart := XXH32.absorb_apart (k := r.length / 4) (by omega) hk ha hb hne v
      (suf.take (12 - r.length))
    obtain ⟨hfst, hsnd⟩ := feed_rel 16 (absorb 4 XXH32.round) (R := Accs.Apart)
      (fun _ _ bs h => XXH32.absorb_same bs h) hapart [] (suf.drop (12 - r.length))
    have hlarge : decide (16 ≤ (pre ++ (a ++ suf)).length) = true := by
      have hle := Nat.mod_le pre.length 16
      rw [decide_eq_true_iff, List.length_append, List.length_append, ha]
      omega
    rw [hblock a ha, hblock b hb, hsnd, XXH32.started, XXH32.started, hlarge]
    exact (XXH32.finish_injective _).ne fun h => hfst.merge_ne (add_right_cancel h)

/-- A byte that is different makes a difference. -/
lemma hash32_byte {x y : BYTE} (hne : x ≠ y) (seed : U32) (pre suf : List BYTE) :
    hash32 seed (pre ++ x :: suf) ≠ hash32 seed (pre ++ y :: suf) := by
  by_cases hword : 4 ≤ pre.length % 4 + (suf.length + 1)
  · -- the byte is in a whole word
    have hq : (pre.drop (pre.length / 4 * 4)).length = pre.length % 4 := by
      rw [List.length_drop]
      omega
    have ht : (suf.take (3 - pre.length % 4)).length = 3 - pre.length % 4 :=
      List.length_take_of_le (by omega)
    have hsplit : ∀ z, pre ++ z :: suf = pre.take (pre.length / 4 * 4) ++
        (pre.drop (pre.length / 4 * 4) ++ z :: suf.take (3 - pre.length % 4) ++
          suf.drop (3 - pre.length % 4)) := by
      intro z
      rw [List.append_assoc, List.cons_append, List.take_append_drop, ← List.append_assoc,
        List.take_append_drop]
    have hlen : ∀ z, (pre.drop (pre.length / 4 * 4) ++ z :: suf.take (3 - pre.length % 4)).length = 4 := by
      intro z
      rw [List.length_append, List.length_cons, hq, ht]
      omega
    rw [hsplit x, hsplit y]
    refine hash32_word ?_ (hlen x) (hlen y) ?_ seed _
    · rw [List.length_take_of_le (by omega), Nat.mul_mod_left]
    · intro h
      exact hne (List.cons.inj (List.append_cancel_left h)).1
  · -- the byte is behind the last word
    generalize hs : XXH32.stripes seed pre = s
    obtain ⟨v, r⟩ := s
    have hr : r.length = pre.length % 16 := by
      have h := feed_length_eq 16 (absorb 4 XXH32.round) (s := XXH32.init seed) (r := []) (by decide) pre
      rw [List.length_nil, Nat.zero_add] at h
      rw [← h]
      exact congrArg (fun s : Accs 32 × List BYTE => s.2.length) hs.symm
    have hshort : ∀ z, XXH32.stripes seed (pre ++ z :: suf) = (v, r ++ z :: suf) := by
      intro z
      rw [XXH32.stripes, feed_append]
      show feed 16 _ (XXH32.stripes seed pre) _ = _
      rw [hs]
      exact feed_short 16 _ (by rw [List.length_cons]; omega)
    have hlen : (pre ++ x :: suf).length = (pre ++ y :: suf).length := by
      simp only [List.length_append, List.length_cons]
    rw [hash32, hash32, ← hlen, hshort, hshort]
    exact XXH32.finish_byte (by omega) hne _

/-- Lists that agree but for some elements in the middle. -/
lemma split_middle {α : Type} {xs ys : List α} {p n : Nat} (hlen : xs.length = ys.length)
    (hle : p + n ≤ xs.length) (h : ∀ i, i < p ∨ p + n ≤ i → xs[i]? = ys[i]?) :
    ∃ pre a b suf, xs = pre ++ (a ++ suf) ∧ ys = pre ++ (b ++ suf) ∧ pre.length = p ∧
      a.length = n ∧ b.length = n := by
  refine ⟨xs.take p, (xs.drop p).take n, (ys.drop p).take n, xs.drop (p + n), ?_, ?_,
    List.length_take_of_le (by omega), ?_, ?_⟩
  · rw [← List.drop_drop, List.take_append_drop, List.take_append_drop]
  · have htake : xs.take p = ys.take p := by
      refine List.ext_getElem? fun i => ?_
      by_cases hi : i < p
      · rw [List.getElem?_take_of_lt hi, List.getElem?_take_of_lt hi, h i (.inl hi)]
      · rw [List.getElem?_take_eq_none (by omega), List.getElem?_take_eq_none (by omega)]
    have hdrop : xs.drop (p + n) = ys.drop (p + n) := by
      refine List.ext_getElem? fun i => ?_
      rw [List.getElem?_drop, List.getElem?_drop, h _ (.inr (by omega))]
    rw [htake, hdrop, ← List.drop_drop, List.take_append_drop, List.take_append_drop]
  · rw [List.length_take, List.length_drop]
    omega
  · rw [List.length_take, List.length_drop]
    omega

/-- The texts have the same length, and differ within one whole word or in one byte. -/
structure OneWordApart (xs ys : List BYTE) : Prop where
  length : xs.length = ys.length
  apart : xs ≠ ys
  agree : (∃ k : Nat, 4 * k + 4 ≤ xs.length ∧ ∀ i, i / 4 ≠ k → xs[i]? = ys[i]?) ∨
    ∃ j : Nat, ∀ i, i ≠ j → xs[i]? = ys[i]?

lemma OneWordApart.hash32_ne {xs ys : List BYTE} (h : OneWordApart xs ys) (seed : U32) :
    hash32 seed xs ≠ hash32 seed ys := by
  have hne := h.apart
  rcases h.agree with ⟨k, hk, hagree⟩ | ⟨j, hagree⟩
  · obtain ⟨pre, a, b, suf, rfl, rfl, hpre, ha, hb⟩ :=
      split_middle h.length hk fun i hi => hagree i (by omega)
    refine hash32_word (by omega) ha hb (fun heq => hne ?_) seed suf
    rw [heq]
  · have hj : j < xs.length := by
      by_contra hj
      refine hne (List.ext_getElem? fun i => ?_)
      by_cases hi : i = j
      · have hlen := h.length
        rw [List.getElem?_eq_none (by omega), List.getElem?_eq_none (by omega)]
      · exact hagree i hi
    obtain ⟨pre, a, b, suf, rfl, rfl, hpre, ha, hb⟩ :=
      split_middle (n := 1) h.length hj fun i hi => hagree i (by omega)
    obtain ⟨x, rfl⟩ := List.length_eq_one_iff.1 ha
    obtain ⟨y, rfl⟩ := List.length_eq_one_iff.1 hb
    refine hash32_byte (fun heq => hne ?_) seed pre suf
    rw [heq]

/-- Two texts of one length that differ within one whole word only, or in one byte only, have different
    hashes, with every seed, on all machines and wherever they are. -/
theorem XXH32_changed (m m' : Machine) (c c' : Piece) (h : OneWordApart c.bytes c'.bytes) (seed : U32) :
    XXH32 m c.mem c.input c.bytes.length seed ≠ XXH32 m' c'.mem c'.input c'.bytes.length seed := by
  rw [XXH32_eq m c.holds, XXH32_eq m' c'.holds]
  exact fun heq => h.hash32_ne seed (Option.some.inj heq)

/-- The path `/player/kick/bib`. -/
def Demo.otherPath : List BYTE :=
  [47, 112, 108, 97, 121, 101, 114, 47, 107, 105, 99, 107, 47, 98, 105, 98]

/-- The paths of `bob` and `bib`, on two processors. -/
theorem XXH32_changed_paths :
    XXH32 ⟨.bigEndian, true⟩ (placed 1001 Demo.path) 1001 16 17733194#32 ≠
      XXH32 ⟨.littleEndian, true⟩ (placed 8 Demo.otherPath) 8 16 17733194#32 :=
  XXH32_changed ⟨.bigEndian, true⟩ ⟨.littleEndian, true⟩ ⟨_, _, _, holds_placed 1001 Demo.path⟩
    ⟨_, _, _, holds_placed 8 Demo.otherPath⟩
    ⟨rfl, by decide, .inr ⟨14, fun i hi => by
      by_cases hlt : i < 16
      · interval_cases i <;> first | rfl | exact absurd rfl hi
      · rw [List.getElem?_eq_none (Nat.le_of_not_lt hlt),
          List.getElem?_eq_none (Nat.le_of_not_lt hlt)]⟩⟩ 17733194#32

/-- As a function of the seed, the hash of a text of less than sixteen bytes takes every value once. -/
lemma hash32_bijective {xs : List BYTE} (hlt : xs.length < 16) : Bijective fun seed => hash32 seed xs := by
  have hinj : Injective fun seed => hash32 seed xs := by
    intro s t heq
    have hstripes : ∀ seed, XXH32.stripes seed xs = (XXH32.init seed, xs) := fun seed =>
      feed_short 16 _ (by rw [List.length_nil]; omega)
    have hsmall : ¬ decide (16 ≤ xs.length) = true := by
      rw [decide_eq_true_iff]
      omega
    simp only [hash32, hstripes, XXH32.started, if_neg hsmall] at heq
    exact add_right_cancel (add_right_cancel (XXH32.finish_injective _ heq))
  have : Finite U32 := .of_injective BitVec.toFin fun _ _ h => BitVec.toFin_inj.1 h
  exact Finite.injective_iff_bijective.1 hinj

/-- The seed of a text of less than sixteen bytes is the only one with its hash: each hash is that of
    the text with exactly one seed. -/
theorem XXH32_seed (m : Machine) (c : Piece) (hlt : c.bytes.length < 16) (h : U32) :
    ∃! seed, XXH32 m c.mem c.input c.bytes.length seed = some h := by
  obtain ⟨seed, hseed, huniq⟩ := (hash32_bijective hlt).existsUnique h
  refine ⟨seed, ?_, fun t ht => huniq t ?_⟩
  · show XXH32 m c.mem c.input c.bytes.length seed = some h
    rw [XXH32_eq m c.holds]
    exact congrArg some hseed
  · have ht : XXH32 m c.mem c.input c.bytes.length t = some h := ht
    rw [XXH32_eq m c.holds] at ht
    exact Option.some.inj ht

/-- The seeds of the path `/player/list` that lead to `419077832`. -/
theorem XXH32_seed_list :
    ∃! seed, XXH32 ⟨.littleEndian, true⟩
      (placed 8 [47, 112, 108, 97, 121, 101, 114, 47, 108, 105, 115, 116]) 8 12 seed =
        some 419077832#32 :=
  XXH32_seed ⟨.littleEndian, true⟩ ⟨_, _, _, holds_placed 8 _⟩ (by decide) 419077832#32

end SampApi.XXHash

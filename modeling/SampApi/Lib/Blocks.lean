import Mathlib.Data.List.Basic
import Mathlib.Tactic

/-!
# Data that is absorbed in blocks

A state absorbs a sequence in blocks of `n` elements; what does not fill a block waits for more. `feed`
takes the elements in one by one, so that to feed it two sequences is to feed it one behind the other
(`feed_append`): nothing depends on how a sequence was cut into pieces.

Programs do the same with a pointer that steps from block to block. `whileBlocks` and `doBlocks` are
their loops, over memory that may lack what they ask for; `whileBlocks_eq` says that over memory that
holds a sequence they are `feed`, and read nothing else.
-/

namespace SampApi.Lib

/-! ## Feeding -/

section Feed
variable {α σ : Type} (n : Nat) (f : σ → List α → σ)

/-- Takes one element in, and absorbs the block if it is full. -/
def push (s : σ × List α) (a : α) : σ × List α :=
  if s.2.length + 1 = n then (f s.1 (s.2 ++ [a]), []) else (s.1, s.2 ++ [a])

/-- Takes a sequence in. -/
def feed (s : σ × List α) (xs : List α) : σ × List α := xs.foldl (push n f) s

@[simp] lemma feed_nil (s : σ × List α) : feed n f s [] = s := rfl

lemma feed_cons (s : σ × List α) (a : α) (xs : List α) :
    feed n f s (a :: xs) = feed n f (push n f s a) xs := rfl

lemma feed_append (s : σ × List α) (xs ys : List α) :
    feed n f s (xs ++ ys) = feed n f (feed n f s xs) ys := List.foldl_append

/-- A sequence that does not fill the block waits. -/
lemma feed_short {s : σ} {r xs : List α} (h : r.length + xs.length < n) :
    feed n f (s, r) xs = (s, r ++ xs) := by
  induction xs generalizing r with
  | nil => rw [feed_nil, List.append_nil]
  | cons a xs ih =>
    rw [List.length_cons] at h
    have hpush : push n f (s, r) a = (s, r ++ [a]) := if_neg (by
      show r.length + 1 ≠ n
      omega)
    rw [feed_cons, hpush, ih (by simp only [List.length_append, List.length_singleton]; omega),
      List.append_assoc]
    rfl

/-- A sequence that fills the block is absorbed with what has waited. -/
lemma feed_block {s : σ} {r xs : List α} (h : r.length + xs.length = n) (hne : xs ≠ []) :
    feed n f (s, r) xs = (f s (r ++ xs), []) := by
  obtain ⟨ys, a, rfl⟩ := (List.eq_nil_or_concat xs).resolve_left hne
  rw [List.concat_eq_append] at h ⊢
  rw [List.length_append, List.length_singleton] at h
  have hys : feed n f (s, r) ys = (s, r ++ ys) := feed_short n f (by omega)
  rw [feed_append, hys]
  show push n f (s, r ++ ys) a = _
  rw [push, if_pos (by rw [List.length_append]; omega), List.append_assoc]

/-- A whole block in front of a sequence. -/
lemma feed_take {s : σ} {xs : List α} (hn : 0 < n) (h : n ≤ xs.length) :
    feed n f (s, []) xs = feed n f (f s (xs.take n), []) (xs.drop n) := by
  have hlen : (xs.take n).length = n := List.length_take_of_le h
  have hne : xs.take n ≠ [] := List.ne_nil_of_length_pos (by omega)
  rw [← List.take_append_drop n xs, feed_append, feed_block n f (by rw [hlen, List.length_nil]; omega)
    hne, List.take_append_drop, List.nil_append]

/-- Less than a block waits. -/
lemma feed_length {s : σ × List α} (h : s.2.length < n) (xs : List α) :
    (feed n f s xs).2.length < n := by
  induction xs generalizing s with
  | nil => exact h
  | cons a xs ih =>
    refine ih (s := push n f s a) ?_
    by_cases hfull : s.2.length + 1 = n
    · rw [push, if_pos hfull, List.length_nil]
      omega
    · rw [push, if_neg hfull, List.length_append, List.length_singleton]
      omega

/-- How many elements wait. -/
lemma feed_length_eq {s : σ} {r : List α} (h : r.length < n) (xs : List α) :
    (feed n f (s, r) xs).2.length = (r.length + xs.length) % n := by
  induction xs generalizing s r with
  | nil => exact (Nat.mod_eq_of_lt h).symm
  | cons a xs ih =>
    rw [feed_cons, List.length_cons]
    by_cases hfull : r.length + 1 = n
    · have hpush : push n f (s, r) a = (f s (r ++ [a]), []) := if_pos hfull
      rw [hpush, ih (by rw [List.length_nil]; omega), List.length_nil, Nat.zero_add,
        show r.length + (xs.length + 1) = xs.length + n by omega, Nat.add_mod_right]
    · have hpush : push n f (s, r) a = (s, r ++ [a]) := if_neg hfull
      have hlen : (r ++ [a]).length = r.length + 1 := by
        rw [List.length_append, List.length_singleton]
      rw [hpush, ih (by omega), hlen, Nat.add_assoc, Nat.add_comm 1]

/-- A relation between states that is kept when both absorb one block is kept when both take one
    sequence in, and the same elements wait. -/
lemma feed_rel {R : σ → σ → Prop} (hf : ∀ s t block, R s t → R (f s block) (f t block)) {s t : σ}
    (h : R s t) (r xs : List α) :
    R (feed n f (s, r) xs).1 (feed n f (t, r) xs).1 ∧
      (feed n f (s, r) xs).2 = (feed n f (t, r) xs).2 := by
  induction xs generalizing s t r with
  | nil => exact ⟨h, rfl⟩
  | cons a xs ih =>
    rw [feed_cons, feed_cons]
    by_cases hfull : r.length + 1 = n
    · have hs : push n f (s, r) a = (f s (r ++ [a]), []) := if_pos hfull
      have ht : push n f (t, r) a = (f t (r ++ [a]), []) := if_pos hfull
      rw [hs, ht]
      exact ih (hf s t _ h) []
    · have hs : push n f (s, r) a = (s, r ++ [a]) := if_neg hfull
      have ht : push n f (t, r) a = (t, r ++ [a]) := if_neg hfull
      rw [hs, ht]
      exact ih h (r ++ [a])

/-- Blocks of one element. -/
lemma feed_one (s : σ) (xs : List α) :
    feed 1 f (s, []) xs = (xs.foldl (fun s a => f s [a]) s, []) := by
  induction xs generalizing s with
  | nil => rfl
  | cons a xs ih => exact ih (f s [a])

end Feed

/-- If a state represents a sequence, and a step that takes a piece in leads to a state that represents
    the sequence with the piece behind it, then so it is for any number of pieces. -/
lemma foldlM_pieces {α σ γ : Type} {step : σ → γ → Option σ} {piece : γ → List α}
    {R : List α → σ → Prop}
    (hstep : ∀ xs s c, R xs s → ∃ t, step s c = some t ∧ R (xs ++ piece c) t) {xs : List α} {s : σ}
    (h : R xs s) (cs : List γ) : ∃ t, cs.foldlM step s = some t ∧ R (xs ++ cs.flatMap piece) t := by
  induction cs generalizing s xs with
  | nil => exact ⟨s, rfl, by rw [List.flatMap_nil, List.append_nil]; exact h⟩
  | cons c cs ih =>
    obtain ⟨t, ht, h⟩ := hstep xs s c h
    obtain ⟨u, hu, h⟩ := ih h
    refine ⟨u, ?_, ?_⟩
    · rw [List.foldlM_cons, ht]
      exact hu
    · rw [List.flatMap_cons, ← List.append_assoc]
      exact h

/-! ## Memory -/

section Memory
variable {α : Type} {load : Nat → Option α}

/-- The memory holds the sequence from an address on. -/
def Holds (load : Nat → Option α) (p : Nat) (xs : List α) : Prop :=
  ∀ i, i < xs.length → load (p + i) = xs[i]?

/-- The memory that holds a sequence and nothing else. -/
def placed (p : Nat) (xs : List α) : Nat → Option α := fun a =>
  if p ≤ a then xs[a - p]? else none

lemma holds_placed (p : Nat) (xs : List α) : Holds (placed p xs) p xs := by
  intro i _
  rw [placed, if_pos (Nat.le_add_right p i), Nat.add_sub_cancel_left]

/-- What is in memory one behind the other is there together. -/
lemma holds_append {p : Nat} {xs ys : List α} :
    Holds load p (xs ++ ys) ↔ Holds load p xs ∧ Holds load (p + xs.length) ys := by
  constructor
  · intro h
    refine ⟨fun i hi => ?_, fun i hi => ?_⟩
    · rw [h i (by rw [List.length_append]; omega), List.getElem?_append_left hi]
    · rw [Nat.add_assoc, h _ (by rw [List.length_append]; omega),
        List.getElem?_append_right (by omega), Nat.add_sub_cancel_left]
  · intro h i hi
    rw [List.length_append] at hi
    by_cases hlt : i < xs.length
    · rw [h.1 i hlt, List.getElem?_append_left hlt]
    · have hsub := h.2 (i - xs.length) (by omega)
      rw [show p + xs.length + (i - xs.length) = p + i by omega] at hsub
      rw [hsub, List.getElem?_append_right (by omega)]

lemma Holds.take {p : Nat} {xs : List α} (h : Holds load p xs) (n : Nat) :
    Holds load p (xs.take n) := by
  rw [← List.take_append_drop n xs] at h
  exact (holds_append.1 h).1

lemma Holds.drop {p n : Nat} {xs : List α} (h : Holds load p xs) (hn : n ≤ xs.length) :
    Holds load (p + n) (xs.drop n) := by
  rw [← List.take_append_drop n xs] at h
  have h := (holds_append.1 h).2
  rw [List.length_take_of_le hn] at h
  exact h

/-- The `n` elements at an address. -/
def loadMany (load : Nat → Option α) : Nat → Nat → Option (List α)
  | _, 0 => some []
  | p, n + 1 => do
    let a ← load p
    let as ← loadMany load (p + 1) n
    return a :: as

lemma Holds.loadMany {p : Nat} {xs : List α} (h : Holds load p xs) :
    loadMany load p xs.length = some xs := by
  induction xs generalizing p with
  | nil => rfl
  | cons a xs ih =>
    have ha : load p = some a := h 0 (Nat.succ_pos _)
    have hxs : Holds load (p + 1) xs := h.drop (n := 1) (Nat.succ_le_succ (Nat.zero_le _))
    rw [List.length_cons, Lib.loadMany, ha]
    show (Lib.loadMany load (p + 1) xs.length).bind _ = _
    rw [ih hxs]
    rfl

end Memory

/-! ## Loops -/

section Loops
variable {σ : Type} (n : Nat) (body : Nat → σ → Option σ)

/-- The loop `while (p + n <= last) { body; p += n; }`. -/
def whileBlocks [NeZero n] (last p : Nat) (s : σ) : Option (Nat × σ) :=
  if p + n ≤ last then (body p s).bind fun s => whileBlocks last (p + n) s else some (p, s)
termination_by last - p
decreasing_by
  have := NeZero.pos n
  omega

/-- The loop `do { body; p += n; } while (p <= limit)`. -/
def doBlocks [NeZero n] (limit p : Nat) (s : σ) : Option (Nat × σ) :=
  (body p s).bind fun s =>
    if p + n ≤ limit then doBlocks limit (p + n) s else some (p + n, s)
termination_by limit - p
decreasing_by
  have := NeZero.pos n
  omega

/-- With a block to start with, the two loops do the same. -/
lemma doBlocks_eq_while [NeZero n] {limit p : Nat} (h : p ≤ limit) (s : σ) :
    doBlocks n body limit p s = whileBlocks n body (limit + n) p s := by
  induction hm : limit - p using Nat.strongRecOn generalizing p s with
  | ind m ih =>
    have hn := NeZero.pos n
    rw [doBlocks, whileBlocks, if_pos (by omega)]
    refine Option.bind_congr fun t _ => ?_
    by_cases hle : p + n ≤ limit
    · rw [if_pos hle]
      exact ih (limit - (p + n)) (by omega) hle t rfl
    · rw [if_neg hle, whileBlocks, if_neg (by omega)]

variable {α : Type} {load : Nat → Option α} (f : σ → List α → σ) {A : Nat → Prop}

/-- Over memory that holds a sequence, a loop whose body absorbs the block at the pointer absorbs the
    blocks of the sequence, and stops in front of what is left of it. `A` is an invariant of the
    pointer. -/
theorem whileBlocks_eq [NeZero n] (hA : ∀ p, A p → A (p + n))
    (hbody : ∀ p s xs, A p → xs.length = n → Holds load p xs → body p s = some (f s xs))
    {p : Nat} {xs : List α} (ha : A p) (h : Holds load p xs) (s : σ) :
    ∃ q, whileBlocks n body (p + xs.length) p s = some (q, (feed n f (s, []) xs).1) ∧
      q + (feed n f (s, []) xs).2.length = p + xs.length ∧ A q ∧
      Holds load q (feed n f (s, []) xs).2 := by
  induction hm : xs.length using Nat.strongRecOn generalizing p xs s with
  | ind m ih =>
    have hn := NeZero.pos n
    rw [← hm, whileBlocks]
    by_cases hle : n ≤ xs.length
    · rw [if_pos (by omega), hbody p s (xs.take n) ha (List.length_take_of_le hle) (h.take n),
        feed_take n f hn hle]
      have hlen : (xs.drop n).length = xs.length - n := List.length_drop
      obtain ⟨q, hq, heq, haq, hholds⟩ :=
        ih (xs.length - n) (by omega) (hA p ha) (h.drop hle) (f s (xs.take n)) hlen
      rw [show p + n + (xs.length - n) = p + xs.length by omega] at hq heq
      exact ⟨q, hq, heq, haq, hholds⟩
    · rw [if_neg (by omega), feed_short n f (by rw [List.length_nil]; omega), List.nil_append]
      exact ⟨p, rfl, rfl, ha, h⟩

/-- A loop that takes in one element at a time. -/
lemma whileBlocks_one (g : σ → α → σ) {p : Nat} {xs : List α} (h : Holds load p xs) (s : σ) :
    whileBlocks 1 (fun p s => (load p).map (g s)) (p + xs.length) p s =
      some (p + xs.length, xs.foldl g s) := by
  have hbody : ∀ p s ys, True → ys.length = 1 → Holds load p ys →
      (load p).map (g s) = some (ys.foldl g s) := by
    intro p s ys _ hlen hys
    obtain ⟨a, rfl⟩ := List.length_eq_one_iff.1 hlen
    have ha : load p = some a := hys 0 Nat.one_pos
    rw [ha]
    rfl
  obtain ⟨q, hq, heq, -, -⟩ := whileBlocks_eq 1 _ (fun s ys => ys.foldl g s) (fun _ _ => trivial) hbody
    trivial h s
  rw [feed_one] at hq heq
  rw [hq, ← heq]
  rfl

end Loops
end SampApi.Lib

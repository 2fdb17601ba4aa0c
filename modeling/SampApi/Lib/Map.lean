import Mathlib.Data.List.Nodup
import Mathlib.Tactic

/-!
# Maps of a container library

Two finite maps as a container library specifies them. `OrdMap` is iterated in the order of its keys.
`HashMap` is iterated in an order that nobody promises: it may depend on everything that was ever
done to the map, so the map keeps its history, and an `IterationOrder` says, for each history, how
the entries are arranged. Both insert by `emplace`, which leaves an entry that is there alone.

The entries of either map have pairwise different keys by construction.
-/

namespace SampApi.Lib

/-! ## Association lists -/

section Assoc
variable {κ υ : Type} [BEq κ] [LawfulBEq κ]

lemma mem_of_lookup_eq_some {l : List (κ × υ)} {k : κ} {v : υ} (h : l.lookup k = some v) :
    (k, v) ∈ l := by
  obtain ⟨l₁, l₂, rfl, -⟩ := List.lookup_eq_some_iff.1 h
  simp

lemma lookup_eq_some_of_mem {l : List (κ × υ)} (hl : (l.map Prod.fst).Nodup) {k : κ} {v : υ}
    (h : (k, v) ∈ l) : l.lookup k = some v := by
  obtain ⟨l₁, l₂, rfl⟩ := List.append_of_mem h
  refine List.lookup_eq_some_iff.2 ⟨l₁, l₂, rfl, fun p hp => ?_⟩
  simp only [List.map_append, List.map_cons, List.nodup_append] at hl
  have hne := hl.2.2 p.1 (List.mem_map_of_mem hp) k List.mem_cons_self
  simpa using Ne.symm hne

lemma mem_iff_lookup {l : List (κ × υ)} (hl : (l.map Prod.fst).Nodup) {k : κ} {v : υ} :
    (k, v) ∈ l ↔ l.lookup k = some v :=
  ⟨lookup_eq_some_of_mem hl, mem_of_lookup_eq_some⟩

/-- The order of the entries does not matter to a lookup. -/
lemma lookup_perm {l l' : List (κ × υ)} (h : l.Perm l') (hl' : (l'.map Prod.fst).Nodup) (k : κ) :
    l.lookup k = l'.lookup k := by
  have hl : (l.map Prod.fst).Nodup := (h.map Prod.fst).nodup_iff.2 hl'
  apply Option.ext
  intro v
  rw [← mem_iff_lookup hl, ← mem_iff_lookup hl']
  exact h.mem_iff

lemma not_mem_keys {l : List (κ × υ)} {k : κ} (h : l.lookup k = none) : k ∉ l.map Prod.fst := by
  intro hm
  obtain ⟨p, hp, rfl⟩ := List.mem_map.1 hm
  simpa using List.lookup_eq_none_iff.1 h p hp

end Assoc

lemma lookup_filter_ne {κ υ : Type} [DecidableEq κ] (l : List (κ × υ)) (k j : κ) :
    (l.filter fun e => e.1 ≠ k).lookup j = if j = k then none else l.lookup j := by
  induction l with
  | nil => simp
  | cons a l ih =>
    obtain ⟨a, b⟩ := a
    by_cases ha : a = k
    · subst ha
      rw [List.filter_cons_of_neg (by simp), ih]
      by_cases hj : j = a
      · simp [hj]
      · simp [hj, List.lookup_cons, beq_false_of_ne hj]
    · rw [List.filter_cons_of_pos (by simpa using ha)]
      by_cases hj : j = a
      · simp [hj, ha]
      · rw [List.lookup_cons, List.lookup_cons, beq_false_of_ne hj]
        exact ih

/-! ## The ordered map -/

/-- A map that is iterated in the order of its keys. -/
structure OrdMap (κ υ : Type) [LinearOrder κ] where
  entries : List (κ × υ)
  sorted : entries.Pairwise fun a b => a.1 < b.1

namespace OrdMap
variable {κ υ : Type} [LinearOrder κ]

/-- The map without entries. -/
def empty : OrdMap κ υ := ⟨[], .nil⟩

/-- The value of a key. -/
def find? (m : OrdMap κ υ) (k : κ) : Option υ := m.entries.lookup k

/-- Puts an entry at its place in a sorted list, unless its key is there. -/
def insertAbsent (k : κ) (v : υ) : List (κ × υ) → List (κ × υ)
  | [] => [(k, v)]
  | e :: l =>
    if k < e.1 then (k, v) :: e :: l
    else if k = e.1 then e :: l
    else e :: insertAbsent k v l

lemma mem_insertAbsent {k : κ} {v : υ} {l : List (κ × υ)} {e : κ × υ}
    (h : e ∈ insertAbsent k v l) : e = (k, v) ∨ e ∈ l := by
  induction l with
  | nil => exact .inl (List.mem_singleton.1 h)
  | cons a l ih =>
    rw [insertAbsent] at h
    split_ifs at h
    · exact List.mem_cons.1 h
    · exact .inr h
    · rcases List.mem_cons.1 h with rfl | h
      · exact .inr List.mem_cons_self
      · exact (ih h).imp_right (List.mem_cons_of_mem a)

lemma insertAbsent_sorted (k : κ) (v : υ) {l : List (κ × υ)}
    (h : l.Pairwise fun a b => a.1 < b.1) : (insertAbsent k v l).Pairwise fun a b => a.1 < b.1 := by
  induction l with
  | nil => exact List.pairwise_singleton _ _
  | cons a l ih =>
    obtain ⟨ha, hl⟩ := List.pairwise_cons.1 h
    rw [insertAbsent]
    split_ifs with h1 h2
    · refine List.pairwise_cons.2 ⟨fun b hb => ?_, h⟩
      rcases List.mem_cons.1 hb with rfl | hb
      · exact h1
      · exact lt_trans h1 (ha b hb)
    · exact h
    · refine List.pairwise_cons.2 ⟨fun b hb => ?_, ih hl⟩
      rcases mem_insertAbsent hb with rfl | hb
      · exact lt_of_le_of_ne (not_lt.1 h1) (Ne.symm h2)
      · exact ha b hb

/-- Inserts an entry, unless there is one with that key. -/
def emplace (m : OrdMap κ υ) (k : κ) (v : υ) : OrdMap κ υ :=
  ⟨insertAbsent k v m.entries, insertAbsent_sorted k v m.sorted⟩

/-- An inserted entry is found, unless an older one with that key is; other keys do not notice. -/
lemma find?_emplace (m : OrdMap κ υ) (k j : κ) (v : υ) :
    (m.emplace k v).find? j = if j = k then some ((m.find? k).getD v) else m.find? j := by
  obtain ⟨l, hl⟩ := m
  simp only [find?, emplace]
  induction l with
  | nil =>
    by_cases h : j = k
    · simp [insertAbsent, h]
    · simp [insertAbsent, List.lookup_cons, beq_false_of_ne h, h]
  | cons a l ih =>
    obtain ⟨a, b⟩ := a
    obtain ⟨ha, hl⟩ := List.pairwise_cons.1 hl
    rw [insertAbsent]
    split_ifs with h1 h2 h3 h4 h5
    · subst h2
      -- the key would stand before `a`, and everything behind `a` is larger still
      have hnone : ((a, b) :: l).lookup j = none := by
        rw [List.lookup_eq_none_iff]
        intro e he
        rcases List.mem_cons.1 he with rfl | he
        · simpa using ne_of_lt h1
        · simpa using ne_of_lt (lt_trans h1 (ha e he))
      rw [hnone]
      simp
    · simp [List.lookup_cons, beq_false_of_ne h2]
    · subst h4
      subst h3
      simp
    · rfl
    · subst h5
      have hs := ih hl
      rw [if_pos rfl] at hs
      rw [List.lookup_cons, List.lookup_cons, beq_false_of_ne h3]
      exact hs
    · have hs := ih hl
      rw [if_neg h5] at hs
      by_cases e : j = a
      · simp [e]
      · rw [List.lookup_cons, List.lookup_cons, beq_false_of_ne e]
        exact hs

end OrdMap

/-! ## The hash map -/

/-- What was done to a hash map. -/
inductive MapOp (κ : Type) where
  | emplace (k : κ)
  | erase (k : κ)

/-- How a hash map with a given history arranges its entries for iteration: in any order. -/
structure IterationOrder (κ υ : Type) where
  arrange : List (MapOp κ) → List (κ × υ) → List (κ × υ)
  perm : ∀ h l, (arrange h l).Perm l

/-- The order in which the entries came. -/
def IterationOrder.byAge (κ υ : Type) : IterationOrder κ υ := ⟨fun _ l => l, fun _ _ => .refl _⟩

/-- A hash map: its entries in the order they came, and what was done to it. -/
structure HashMap (κ υ : Type) where
  entries : List (κ × υ)
  nodup : (entries.map Prod.fst).Nodup
  history : List (MapOp κ)

namespace HashMap
variable {κ υ : Type} [DecidableEq κ]

/-- The map without entries. -/
def empty : HashMap κ υ := ⟨[], .nil, []⟩

/-- The value of a key. -/
def find? (m : HashMap κ υ) (k : κ) : Option υ := m.entries.lookup k

/-- Inserts an entry, unless there is one with that key. -/
def emplace (m : HashMap κ υ) (k : κ) (v : υ) : HashMap κ υ :=
  match h : m.find? k with
  | some _ => { m with history := m.history ++ [.emplace k] }
  | none =>
    { entries := m.entries ++ [(k, v)]
      nodup := by
        rw [List.map_append, List.nodup_append]
        refine ⟨m.nodup, by simp, ?_⟩
        rintro a ha b hb rfl
        obtain rfl : a = k := by simpa using hb
        exact not_mem_keys h ha
      history := m.history ++ [.emplace k] }

/-- Removes the entry of a key, if there is one. -/
def erase (m : HashMap κ υ) (k : κ) : HashMap κ υ :=
  { entries := m.entries.filter fun e => e.1 ≠ k
    nodup := m.nodup.sublist (List.filter_sublist.map _)
    history := m.history ++ [.erase k] }

/-- The entries in the order of iteration. -/
def toList (o : IterationOrder κ υ) (m : HashMap κ υ) : List (κ × υ) :=
  o.arrange m.history m.entries

/-- An inserted entry is found, unless an older one with that key is; other keys do not notice. -/
lemma find?_emplace (m : HashMap κ υ) (k j : κ) (v : υ) :
    (m.emplace k v).find? j = if j = k then some ((m.find? k).getD v) else m.find? j := by
  unfold emplace
  split
  · rename_i w h
    by_cases e : j = k
    · rw [if_pos e, h, e]
      exact h
    · rw [if_neg e]
      rfl
  · rename_i h
    by_cases e : j = k
    · subst e
      simp only [find?] at h
      simp [find?, List.lookup_append, h]
    · have h1 : [(k, v)].lookup j = none := by simpa using e
      simp only [find?, List.lookup_append, h1, Option.or_none, if_neg e]

lemma find?_erase (m : HashMap κ υ) (k j : κ) :
    (m.erase k).find? j = if j = k then none else m.find? j := lookup_filter_ne m.entries k j

/-- Iteration meets exactly the entries of the map. -/
lemma mem_toList {o : IterationOrder κ υ} {m : HashMap κ υ} {k : κ} {v : υ} :
    (k, v) ∈ m.toList o ↔ m.find? k = some v :=
  (o.perm _ _).mem_iff.trans (mem_iff_lookup m.nodup)

end HashMap
end SampApi.Lib

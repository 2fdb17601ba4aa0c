import Mathlib.Data.List.Induction
import Mathlib.Data.List.TakeWhile
import Mathlib.Data.Nat.Digits.Defs

/-!
# Text

Reading text the way a C library does: line by line, and numbers from the start of a string. Splitting
a text at separators is the inverse of joining pieces by single separators (`Joined.splitOnP_eq`,
`joined_splitOnP`), and reading lines is the inverse of ending each of them (`getlines_unlines`). A text
of digits only is read as the number that they are (`numeral_eq`).
-/

namespace SampApi.Lib

/-! ## Pieces -/

section Pieces
variable {α : Type} {p : α → Bool}

/-- A list is some pieces without separators, joined by single separators. -/
inductive Joined (p : α → Bool) : List α → List (List α) → Prop where
  | single {x : List α} (h : ∀ a ∈ x, p a = false) : Joined p x [x]
  | cons {x l : List α} {xs : List (List α)} {sep : α} (h : ∀ a ∈ x, p a = false)
    (hs : p sep = true) : Joined p l xs → Joined p (x ++ sep :: l) (x :: xs)

/-- Splitting a joined list yields the pieces. -/
lemma Joined.splitOnP_eq {l : List α} {xs : List (List α)} (h : Joined p l xs) :
    l.splitOnP p = xs := by
  induction h with
  | single h => exact List.splitOnP_eq_singleton h
  | @cons x l xs sep h hs _ ih => rw [List.splitOnP_append_cons_of_forall_mem h sep hs, ih]

/-- An element in front of a joined list goes into the first piece. -/
lemma Joined.cons_head {l x : List α} {xs : List (List α)} {a : α} (ha : p a = false)
    (h : Joined p l (x :: xs)) : Joined p (a :: l) ((a :: x) :: xs) := by
  cases h with
  | single h =>
    apply Joined.single
    intro b hb
    rcases List.mem_cons.1 hb with rfl | hb
    · exact ha
    · exact h b hb
  | @cons _ l _ sep h hs hl =>
    rw [← List.cons_append]
    refine Joined.cons (fun b hb => ?_) hs hl
    rcases List.mem_cons.1 hb with rfl | hb
    · exact ha
    · exact h b hb

/-- Every list is the pieces that splitting it yields, joined. -/
lemma joined_splitOnP (l : List α) : Joined p l (l.splitOnP p) := by
  induction l with
  | nil => exact .single nofun
  | cons a l ih =>
    rw [List.splitOnP_cons_eq_if_modifyHead]
    cases ha : p a with
    | true =>
      rw [if_pos rfl]
      exact Joined.cons (x := []) nofun ha ih
    | false =>
      rw [if_neg Bool.false_ne_true]
      obtain ⟨x, xs, hx⟩ := List.exists_cons_of_ne_nil (List.splitOnP_ne_nil p l)
      rw [hx] at ih ⊢
      exact ih.cons_head ha

lemma splitOnP_eq_iff {l : List α} {xs : List (List α)} : l.splitOnP p = xs ↔ Joined p l xs := by
  constructor
  · intro h
    rw [← h]
    exact joined_splitOnP l
  · exact Joined.splitOnP_eq

lemma Joined.piece {l : List α} {xs : List (List α)} (h : Joined p l xs) {x : List α}
    (hx : x ∈ xs) : ∀ a ∈ x, p a = false := by
  induction h with
  | single h =>
    rw [List.mem_singleton.1 hx]
    exact h
  | cons h _ _ ih =>
    rcases List.mem_cons.1 hx with rfl | hx
    · exact h
    · exact ih hx

/-- An element of a joined list is a separator, or in a piece. -/
lemma Joined.mem {l : List α} {xs : List (List α)} (h : Joined p l xs) {a : α} (ha : a ∈ l) :
    p a = true ∨ ∃ x ∈ xs, a ∈ x := by
  induction h with
  | single _ => exact .inr ⟨_, List.mem_cons_self, ha⟩
  | @cons x l xs sep _ hs _ ih =>
    rcases List.mem_append.1 ha with ha | ha
    · exact .inr ⟨x, List.mem_cons_self, ha⟩
    · rcases List.mem_cons.1 ha with rfl | ha
      · exact .inl hs
      · rcases ih ha with h | ⟨y, hy, ha⟩
        · exact .inl h
        · exact .inr ⟨y, List.mem_cons_of_mem x hy, ha⟩

/-- A change that keeps separators and other elements apart changes a joined list piece by piece. -/
lemma Joined.map {β : Type} {q : β → Bool} {f : α → β} (hf : ∀ a, q (f a) = p a) {l : List α}
    {xs : List (List α)} (h : Joined p l xs) : Joined q (l.map f) (xs.map (List.map f)) := by
  have hpiece : ∀ {x : List α}, (∀ a ∈ x, p a = false) → ∀ b ∈ x.map f, q b = false := by
    intro x hx b hb
    obtain ⟨a, ha, rfl⟩ := List.mem_map.1 hb
    rw [hf]
    exact hx a ha
  induction h with
  | single h => exact .single (hpiece h)
  | @cons x l xs sep h hs _ ih =>
    rw [List.map_append, List.map_cons, List.map_cons]
    exact .cons (hpiece h) ((hf sep).trans hs) ih

end Pieces

/-! ## Lines -/

/-- The lines that successive `getline`s read: a line ends before a newline or at the end of the
    text, and there is no empty line behind the last newline. -/
def getlines (text : List Char) : List (List Char) :=
  let ls := text.splitOn '\n'
  if ls.getLast? = some [] then ls.dropLast else ls

example : getlines "a b\n\nc".toList = ["a b".toList, [], "c".toList] := by decide

example : getlines "a\n".toList = ["a".toList] := by decide

/-- Lines as a file has them: each with a newline behind it. -/
def unlines (ls : List (List Char)) : List Char := ls.flatMap fun l => l ++ ['\n']

lemma splitOn_unlines {ls : List (List Char)} (h : ∀ l ∈ ls, '\n' ∉ l) :
    (unlines ls).splitOn '\n' = ls ++ [[]] := by
  induction ls with
  | nil => rfl
  | cons l ls ih =>
    have hl : '\n' ∉ l := h l List.mem_cons_self
    rw [unlines, List.flatMap_cons, List.append_assoc, List.singleton_append,
      List.splitOn_append_cons_self_of_not_mem hl]
    exact congrArg (l :: ·) (ih fun l' hl' => h l' (List.mem_cons_of_mem l hl'))

/-- The lines of a text in which every line is ended are read back. -/
lemma getlines_unlines {ls : List (List Char)} (h : ∀ l ∈ ls, '\n' ∉ l) :
    getlines (unlines ls) = ls := by
  rw [getlines, splitOn_unlines h]
  simp

/-- Without a newline behind the last line, that line is not read if it is empty. -/
lemma getlines_intercalate {ls : List (List Char)} (h : ∀ l ∈ ls, '\n' ∉ l) :
    getlines (['\n'].intercalate ls) = if ls.getLast? = some [] then ls.dropLast else ls := by
  cases ls with
  | nil => rfl
  | cons l ls => rw [getlines, List.splitOn_intercalate '\n' h (List.cons_ne_nil l ls)]

/-- A change that keeps newlines and other characters apart changes a text line by line. -/
lemma getlines_map {f : Char → Char} (hf : ∀ c, (f c == '\n') = (c == '\n')) (text : List Char) :
    getlines (text.map f) = (getlines text).map (List.map f) := by
  have hsplit : (text.map f).splitOn '\n' = (text.splitOn '\n').map (List.map f) := by
    rw [List.splitOn_eq_splitOnP, List.splitOn_eq_splitOnP]
    exact ((joined_splitOnP text).map hf).splitOnP_eq
  have hlast : ((text.map f).splitOn '\n').getLast? = some [] ↔
      (text.splitOn '\n').getLast? = some [] := by
    rw [hsplit, List.getLast?_map, Option.map_eq_some_iff]
    simp
  rw [getlines, getlines]
  by_cases h : (text.splitOn '\n').getLast? = some []
  · rw [if_pos h, if_pos (hlast.2 h), hsplit, List.map_dropLast]
  · rw [if_neg h, if_neg (fun h' => h (hlast.1 h')), hsplit]

/-! ## Numbers -/

/-- The blanks that `isspace` accepts. -/
def isSpace (c : Char) : Bool := c ∈ [' ', '\t', '\n', '\x0b', '\x0c', '\r']

/-- The decimal number a text begins with, after blanks and an optional sign: whether there was a
    minus, and the value of the longest row of digits; `none` if there is no digit. -/
def numeral (s : List Char) : Option (Bool × Nat) :=
  let s := s.dropWhile isSpace
  let (neg, s) :=
    match s with
    | '-' :: s => (true, s)
    | '+' :: s => (false, s)
    | s => (false, s)
  let ds := s.takeWhile Char.isDigit
  if ds = [] then none
  else some (neg, ds.foldl (fun n d => 10 * n + (d.toNat - '0'.toNat)) 0)

example : numeral " -12ab".toList = some (true, 12) := by decide

example : numeral "+ 1".toList = none := by decide

/-- A row of decimal digits, and nothing else. -/
def IsNumeral (s : List Char) : Prop := s ≠ [] ∧ s.all Char.isDigit = true

/-- The number that a row of decimal digits is. -/
def digitsValue (s : List Char) : Nat :=
  Nat.ofDigits 10 (s.reverse.map fun d => d.toNat - '0'.toNat)

lemma digitsValue_append (s : List Char) (d : Char) :
    digitsValue (s ++ [d]) = 10 * digitsValue s + (d.toNat - '0'.toNat) := by
  rw [digitsValue, List.reverse_append, List.reverse_singleton, List.singleton_append, List.map_cons,
    Nat.ofDigits_cons, Nat.add_comm]
  rfl

/-- Reading digits one by one yields their number. -/
lemma foldl_digits (s : List Char) :
    s.foldl (fun n d => 10 * n + (d.toNat - '0'.toNat)) 0 = digitsValue s := by
  induction s using List.reverseRecOn with
  | nil => rfl
  | append_singleton s d ih =>
    rw [List.foldl_append, ih, digitsValue_append]
    rfl

/-- A digit is no blank and no sign. -/
lemma digit_ne {c : Char} (h : c.isDigit = true) : isSpace c = false ∧ c ≠ '-' ∧ c ≠ '+' := by
  refine ⟨?_, ?_, ?_⟩
  · rw [isSpace, decide_eq_false_iff_not]
    intro hc
    simp only [List.mem_cons, List.not_mem_nil, or_false] at hc
    rcases hc with rfl | rfl | rfl | rfl | rfl | rfl
    all_goals cases h
  · rintro rfl
    cases h
  · rintro rfl
    cases h

/-- A text of digits only is read as their number. -/
lemma numeral_eq {s : List Char} (h : IsNumeral s) : numeral s = some (false, digitsValue s) := by
  obtain ⟨hne, hall⟩ := h
  obtain ⟨c, cs, rfl⟩ := List.exists_cons_of_ne_nil hne
  have hdigits : ∀ d ∈ c :: cs, d.isDigit = true := List.all_eq_true.1 hall
  obtain ⟨hspace, hminus, hplus⟩ := digit_ne (hdigits c List.mem_cons_self)
  have hdrop : (c :: cs).dropWhile isSpace = c :: cs := by
    rw [List.dropWhile_cons, hspace, if_neg Bool.false_ne_true]
  have htake : (c :: cs).takeWhile Char.isDigit = c :: cs := List.takeWhile_eq_self_iff.2 hdigits
  rw [numeral, hdrop]
  split
  rename_i hsign
  split at hsign
  · rename_i s e
    exact absurd (List.cons.inj e).1 hminus
  · rename_i s e
    exact absurd (List.cons.inj e).1 hplus
  · cases hsign
    rw [htake, ← foldl_digits]
    exact if_neg hne

end SampApi.Lib

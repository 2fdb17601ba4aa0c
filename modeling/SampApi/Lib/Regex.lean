import Mathlib.Data.List.TakeDrop
import Mathlib.Tactic

/-!
# Backtracking regular expressions

The part of ECMAScript regular expressions with characters, bracket expressions, anchors, groups,
`?` and `+` (greedy and lazy): the syntax tree `Node`, the matcher `Node.run`, and on top of it
`regexMatch` (whole string), `search` (leftmost), `tokens` and `regexReplace`.

`Node.run` returns the list of all ways to match at a cursor, in the order a backtracking matcher
tries them, so that the head of the list is what such a matcher finds, and a sequence is a
`flatMap`. The two lemmas `run_plus_set_head` and `run_plus_set_flatMap` say what the quantifier `+`
over a bracket expression finds: taken alone and greedy the longest run; lazy and before something
that cannot start inside the run, also the longest run.
-/

namespace SampApi.Lib

/-- The syntax tree of a regular expression. A group without capture is the tree it holds. -/
inductive Regex.Node where
  | eps
  | chr (c : Char)
  | set (neg : Bool) (cs : List Char)
  | bol
  | eol
  | seq (r q : Node)
  | capture (i : Nat) (r : Node)
  | opt (greedy : Bool) (r : Node)
  | plus (greedy : Bool) (r : Node)
  deriving DecidableEq, Repr

/-- A compiled expression: its tree and how many capture groups it has. -/
structure Regex where
  node : Regex.Node := .eps
  marks : Nat := 0
  deriving DecidableEq, Repr

namespace Regex

/-- A place in the input, with the texts captured on the way to it (the newest first). -/
structure Cursor where
  pos : Nat
  rest : List Char
  caps : List (Nat × List Char)
  deriving DecidableEq, Repr

/-- The cursor `n` characters further on. -/
def Cursor.advance (s : Cursor) (n : Nat) : Cursor :=
  { s with pos := s.pos + n, rest := s.rest.drop n }

/-- The text between a cursor and a later one. -/
def Cursor.upTo (s t : Cursor) : List Char := s.rest.take (t.pos - s.pos)

/-- A bracket expression accepts a character. -/
def inSet (neg : Bool) (cs : List Char) (c : Char) : Bool := (cs.contains c) != neg

/-- Puts going on with a quantifier before stopping, or after it. -/
def prefer {α : Type} (greedy : Bool) (more stop : List α) : List α :=
  if greedy then more ++ stop else stop ++ more

/-- Repeats `f` at most `n` times; a repetition that consumes nothing is rejected. -/
def iterate (greedy : Bool) (f : Cursor → List Cursor) : Nat → Cursor → List Cursor
  | 0, s => [s]
  | n + 1, s =>
    prefer greedy (((f s).filter fun t => s.pos < t.pos).flatMap (iterate greedy f n)) [s]

/-- All ways to match at a cursor, in the order they are tried. -/
def Node.run : Node → Cursor → List Cursor
  | .eps, s => [s]
  | .chr c, s => if s.rest.head? = some c then [s.advance 1] else []
  | .set neg cs, s => if s.rest.head?.any (inSet neg cs) then [s.advance 1] else []
  | .bol, s => if s.pos = 0 then [s] else []
  | .eol, s => if s.rest = [] then [s] else []
  | .seq r q, s => (r.run s).flatMap fun t => q.run t
  | .capture i r, s => (r.run s).map fun t => { t with caps := (i, s.upTo t) :: t.caps }
  | .opt greedy r, s => prefer greedy ((r.run s).filter fun t => s.pos < t.pos) [s]
  | .plus greedy r, s =>
    (r.run s).flatMap fun t => iterate greedy (fun u => r.run u) t.rest.length t

/-- The submatches of a match: the whole text, then each group; a group that took no part is
    empty. -/
def submatches (re : Regex) (s t : Cursor) : List (List Char) :=
  s.upTo t :: (List.range re.marks).map fun i => (t.caps.lookup (i + 1)).getD []

/-- Matches the whole string and returns the submatches. -/
def regexMatch (re : Regex) (u : List Char) : Option (List (List Char)) :=
  ((re.node.run ⟨0, u, []⟩).find? fun t => t.rest = []).map (submatches re ⟨0, u, []⟩)

/-- The leftmost match in `rest`, which starts at position `pos`: the text skipped, the text
    matched, and what follows. -/
def search (re : Regex) : Nat → List Char → Option (List Char × List Char × List Char)
  | pos, rest =>
    match (re.node.run ⟨pos, rest, []⟩).head? with
    | some t => some ([], Cursor.upTo ⟨pos, rest, []⟩ t, t.rest)
    | none =>
      match rest with
      | [] => none
      | c :: cs => (search re (pos + 1) cs).map fun (skipped, found, after) =>
        (c :: skipped, found, after)

/-- The matches found one after the other, each with the text skipped before it, and the text after
    the last one. A match of the empty string ends the iteration. -/
def pieces (re : Regex) : Nat → Nat → List Char → List (List Char × List Char) × List Char
  | 0, _, rest => ([], rest)
  | n + 1, pos, rest =>
    match search re pos rest with
    | none => ([], rest)
    | some (skipped, found, after) =>
      if found = [] then ([], rest)
      else
        let (ps, suffix) := pieces re n (pos + skipped.length + found.length) after
        ((skipped, found) :: ps, suffix)

/-- The texts matched by the successive matches in a string (a `sregex_token_iterator`). -/
def tokens (re : Regex) (s : List Char) : List (List Char) :=
  (pieces re s.length 0 s).1.map Prod.snd

/-- Replaces each of the successive matches by `fmt`, a text without `$`. -/
def regexReplace (re : Regex) (fmt s : List Char) : List Char :=
  let (ps, suffix) := pieces re s.length 0 s
  ps.flatMap (fun p => p.1 ++ fmt) ++ suffix

/-! ## Compilation -/

/-- The characters with a meaning of their own. -/
def special : List Char := "^$\\.*+?()[]{}|".toList

/-- Reads a bracket expression up to its closing bracket; ranges and classes are not supported. -/
def parseSet : List Char → Option (List Char × List Char)
  | [] => none
  | ']' :: s => some ([], s)
  | '\\' :: c :: s =>
    if c.isAlphanum then none else (parseSet s).map fun (cs, s) => (c :: cs, s)
  | c :: s => if c ∈ ['-', '[', '\\'] then none else (parseSet s).map fun (cs, s) => (c :: cs, s)

/-- Reads the quantifier after an atom, if there is one. -/
def parseQuantifier (r : Node) : List Char → Node × List Char
  | '?' :: '?' :: s => (.opt false r, s)
  | '?' :: s => (.opt true r, s)
  | '+' :: '?' :: s => (.plus false r, s)
  | '+' :: s => (.plus true r, s)
  | s => (r, s)

/-- Reads a sequence up to the end or to a closing parenthesis; `n` counts the capture groups opened
    so far. -/
def parseSeq : Nat → Nat → List Char → Option (Node × Nat × List Char)
  | 0, _, _ => none
  | fuel + 1, n, s =>
    -- the rest of the sequence after an atom and its quantifier
    let next (r : Node) (n : Nat) (s : List Char) : Option (Node × Nat × List Char) :=
      let (r, s) := parseQuantifier r s
      (parseSeq fuel n s).map fun (q, n, s) => (.seq r q, n, s)
    match s with
    | [] => some (.eps, n, [])
    | ')' :: s => some (.eps, n, ')' :: s)
    | '^' :: s => (parseSeq fuel n s).map fun (q, n, s) => (.seq .bol q, n, s)
    | '$' :: s => (parseSeq fuel n s).map fun (q, n, s) => (.seq .eol q, n, s)
    | '(' :: '?' :: ':' :: s =>
      match parseSeq fuel n s with
      | some (r, n, ')' :: s) => next r n s
      | _ => none
    | '(' :: s =>
      match parseSeq fuel (n + 1) s with
      | some (r, m, ')' :: s) => next (.capture (n + 1) r) m s
      | _ => none
    | '[' :: '^' :: s => (parseSet s).bind fun (cs, s) => next (.set true cs) n s
    | '[' :: s => (parseSet s).bind fun (cs, s) => next (.set false cs) n s
    | '\\' :: c :: s => if c.isAlphanum then none else next (.chr c) n s
    | c :: s => if c ∈ special then none else next (.chr c) n s

/-- Compiles the text of an expression; `none` if it is malformed (or beyond the part of the grammar
    described above). -/
def compile (s : List Char) : Option Regex :=
  match parseSeq (s.length + 1) 0 s with
  | some (r, n, []) => some ⟨r, n⟩
  | _ => none

example : compile ":([^\\/]+)?".toList =
    some ⟨.seq (.chr ':') (.seq (.opt true (.capture 1 (.seq (.plus true (.set true ['/'])) .eps)))
      .eps), 1⟩ := by decide

example : (compile "^/a/(?:([^\\/]+?))$".toList).bind (regexMatch · "/a/bc".toList) =
    some ["/a/bc".toList, "bc".toList] := by decide

/-! ## Runs over literal text -/

/-- The tree that matches the characters of `l` and goes on with `q`. -/
def Node.lits (l : List Char) (q : Node) : Node := l.foldr (fun c r => .seq (.chr c) r) q

@[simp] lemma Node.lits_nil (q : Node) : Node.lits [] q = q := rfl

@[simp] lemma Node.lits_cons (c : Char) (l : List Char) (q : Node) :
    Node.lits (c :: l) q = .seq (.chr c) (.lits l q) := rfl

@[simp] lemma Cursor.advance_zero (s : Cursor) : s.advance 0 = s := rfl

@[simp] lemma Cursor.advance_advance (s : Cursor) (m n : Nat) :
    (s.advance m).advance n = s.advance (m + n) := by
  simp [Cursor.advance, Nat.add_assoc]

@[simp] lemma Cursor.advance_pos (s : Cursor) (n : Nat) : (s.advance n).pos = s.pos + n := rfl

@[simp] lemma Cursor.advance_rest (s : Cursor) (n : Nat) : (s.advance n).rest = s.rest.drop n := rfl

@[simp] lemma Cursor.upTo_advance (s : Cursor) (n : Nat) : s.upTo (s.advance n) = s.rest.take n := by
  simp [Cursor.upTo]

/-- Literal text either stands at the cursor, and the rest goes on behind it, or there is no match. -/
lemma run_lits (l : List Char) (q : Node) (s : Cursor) :
    (Node.lits l q).run s = if l <+: s.rest then q.run (s.advance l.length) else [] := by
  induction l generalizing s with
  | nil => simp
  | cons c l ih =>
    cases hr : s.rest with
    | nil => simp [Node.run, hr]
    | cons d ds =>
      by_cases e : d = c
      · subst e
        simp [Node.run, hr, ih, List.cons_prefix_cons, Nat.add_comm]
      · simp [Node.run, hr, List.cons_prefix_cons, e, Ne.symm e]

/-! ## Runs of a bracket expression -/

/-- The number of characters at the cursor a bracket expression accepts one after the other. -/
def Cursor.span (s : Cursor) (p : Char → Bool) : Nat := (s.rest.takeWhile p).length

/-- The lengths `1` to `k`, the longest first or last. -/
def lengths (greedy : Bool) (k : Nat) : List Nat :=
  if greedy then (List.range' 1 k).reverse else List.range' 1 k

/-- The lengths from one character further on, seen from here. -/
lemma prefer_lengths (greedy : Bool) (s : Cursor) (k : Nat) :
    prefer greedy ((lengths greedy k).map (s.advance 1).advance) [s.advance 1] =
      (lengths greedy (k + 1)).map s.advance := by
  have shift : (List.range' 1 k).map (s.advance 1).advance = (List.range' 2 k).map s.advance := by
    rw [← List.map_add_range' (a := 1) 1 k 1, List.map_map]
    exact List.map_congr_left fun i _ => by simp
  cases greedy
  · simp only [prefer, lengths, Bool.false_eq_true, if_false, List.range'_succ, shift]
    rfl
  · simp only [prefer, lengths, if_true, List.map_reverse, List.range'_succ, shift]
    simp

/-- Where a bracket expression accepts the next character, its run goes on there. -/
lemma span_succ {s : Cursor} {p : Char → Bool} (h : s.rest.head?.any p = true) :
    s.span p = (s.advance 1).span p + 1 := by
  cases hr : s.rest with
  | nil => simp [hr] at h
  | cons d ds => simp_all [Cursor.span]

lemma span_eq_zero {s : Cursor} {p : Char → Bool} (h : s.rest.head?.any p = false) :
    s.span p = 0 := by
  cases hr : s.rest with
  | nil => simp [Cursor.span, hr]
  | cons d ds => simp_all [Cursor.span]

lemma iterate_set (greedy neg : Bool) (cs : List Char) (n : Nat) (s : Cursor)
    (h : s.rest.length ≤ n) :
    iterate greedy (fun u => (Node.set neg cs).run u) n s =
      prefer greedy ((lengths greedy (s.span (inSet neg cs))).map s.advance) [s] := by
  induction n generalizing s with
  | zero =>
    have e : s.rest = [] := List.length_eq_zero_iff.1 (Nat.le_zero.1 h)
    cases greedy <;> simp [iterate, prefer, lengths, Cursor.span, e]
  | succ n ih =>
    cases hd : s.rest.head?.any (inSet neg cs) with
    | false =>
      rw [iterate, span_eq_zero hd]
      cases greedy <;> simp [Node.run, hd, prefer, lengths]
    | true =>
      have hlen : (s.advance 1).rest.length ≤ n := by simp; omega
      rw [iterate, span_succ hd, ← prefer_lengths, ← ih _ hlen]
      simp [Node.run, hd]

/-- A bracket expression under `+` matches every nonempty part of the run of accepted characters. -/
lemma run_plus_set (greedy neg : Bool) (cs : List Char) (s : Cursor) :
    (Node.plus greedy (.set neg cs)).run s =
      (lengths greedy (s.span (inSet neg cs))).map s.advance := by
  cases hd : s.rest.head?.any (inSet neg cs) with
  | false =>
    rw [span_eq_zero hd]
    cases greedy <;> simp [Node.run, hd, lengths]
  | true =>
    rw [span_succ hd, ← prefer_lengths, ← iterate_set _ _ _ _ _ (Nat.le_refl _)]
    simp [Node.run, hd]

/-- Greedy, the longest run is tried first. -/
lemma run_plus_set_head (neg : Bool) (cs : List Char) (s : Cursor) :
    ((Node.plus true (.set neg cs)).run s).head? =
      if s.span (inSet neg cs) = 0 then none else some (s.advance (s.span (inSet neg cs))) := by
  rw [run_plus_set]
  cases s.span (inSet neg cs) with
  | zero => rfl
  | succ k => simp [lengths, List.range'_concat, Nat.add_comm]

lemma accepts_of_lt_span {s : Cursor} {p : Char → Bool} {n : Nat} (h : n < s.span p) :
    (s.advance n).rest.head?.any p = true := by
  induction n generalizing s with
  | zero =>
    rw [Cursor.advance_zero]
    by_contra hd
    rw [span_eq_zero (Bool.eq_false_iff.2 hd)] at h
    exact Nat.lt_irrefl 0 h
  | succ n ih =>
    have hd : s.rest.head?.any p = true := by
      by_contra hd
      rw [span_eq_zero (Bool.eq_false_iff.2 hd)] at h
      omega
    have h' := ih (s := s.advance 1) (by rw [span_succ hd] at h; omega)
    rwa [Cursor.advance_advance, Nat.add_comm 1 n] at h'

/-- Before a continuation that cannot start at a character of the run, only the longest run is left,
    whatever the order of the attempts. -/
lemma run_plus_set_flatMap (greedy neg : Bool) (cs : List Char) (s : Cursor)
    {K : Cursor → List Cursor}
    (hK : ∀ n, (s.advance n).rest.head?.any (inSet neg cs) = true → K (s.advance n) = []) :
    ((Node.plus greedy (.set neg cs)).run s).flatMap K =
      if s.span (inSet neg cs) = 0 then [] else K (s.advance (s.span (inSet neg cs))) := by
  rw [run_plus_set]
  cases hk : s.span (inSet neg cs) with
  | zero => cases greedy <;> rfl
  | succ k =>
    have short : ∀ n ∈ List.range' 1 k, K (s.advance n) = [] := by
      intro n hn
      rw [List.mem_range'_1] at hn
      exact hK n (accepts_of_lt_span (by omega))
    have lazy : (List.range' 1 k).flatMap (fun n => K (s.advance n)) = [] :=
      List.flatMap_eq_nil_iff.2 short
    have rev : (List.range' 1 k).reverse.flatMap (fun n => K (s.advance n)) = [] :=
      List.flatMap_eq_nil_iff.2 fun n hn => short n (List.mem_reverse.1 hn)
    rw [if_neg (Nat.succ_ne_zero k), List.flatMap_map]
    cases greedy
    · simp only [lengths, Bool.false_eq_true, if_false, List.range'_concat, List.flatMap_append, lazy,
        List.flatMap_singleton, List.nil_append, Nat.one_mul, Nat.add_comm]
    · simp only [lengths, if_true, List.range'_concat, List.reverse_append, List.reverse_singleton,
        List.flatMap_append, rev, List.flatMap_singleton, List.append_nil, Nat.one_mul, Nat.add_comm]

/-! ## Successive matches -/

/-- No match of the expression starts with the character, wherever it stands. -/
def CannotStart (re : Regex) (c : Char) : Prop :=
  ∀ pos rest, re.node.run ⟨pos, c :: rest, []⟩ = []

/-- Puts skipped text before a list of successive matches. -/
def before (l : List Char) :
    List (List Char × List Char) × List Char → List (List Char × List Char) × List Char
  | ([], suffix) => ([], l ++ suffix)
  | ((skipped, found) :: ps, suffix) => ((l ++ skipped, found) :: ps, suffix)

@[simp] lemma before_nil (x : List (List Char × List Char) × List Char) : before [] x = x := by
  rcases x with ⟨_ | ⟨⟨_, _⟩, _⟩, _⟩ <;> rfl

lemma before_append (l m : List Char) (x : List (List Char × List Char) × List Char) :
    before (l ++ m) x = before l (before m x) := by
  rcases x with ⟨_ | ⟨⟨_, _⟩, _⟩, _⟩ <;> simp [before]

/-- The texts matched. -/
def founds (x : List (List Char × List Char) × List Char) : List (List Char) := x.1.map Prod.snd

/-- The text with each match replaced by `fmt`. -/
def replaced (fmt : List Char) (x : List (List Char × List Char) × List Char) : List Char :=
  x.1.flatMap (fun p => p.1 ++ fmt) ++ x.2

@[simp] lemma founds_before (l : List Char) (x : List (List Char × List Char) × List Char) :
    founds (before l x) = founds x := by
  rcases x with ⟨_ | ⟨⟨_, _⟩, _⟩, _⟩ <;> rfl

@[simp] lemma replaced_before (fmt l : List Char)
    (x : List (List Char × List Char) × List Char) :
    replaced fmt (before l x) = l ++ replaced fmt x := by
  rcases x with ⟨_ | ⟨⟨_, _⟩, _⟩, _⟩ <;> simp [replaced, before]

lemma tokens_eq (re : Regex) (s : List Char) : tokens re s = founds (pieces re s.length 0 s) := rfl

lemma regexReplace_eq (re : Regex) (fmt s : List Char) :
    regexReplace re fmt s = replaced fmt (pieces re s.length 0 s) := rfl

/-- A character no match starts with is skipped. -/
lemma pieces_skip {re : Regex} {c : Char} (h : CannotStart re c) (n pos : Nat) (s : List Char) :
    pieces re n pos (c :: s) = before [c] (pieces re n (pos + 1) s) := by
  cases n with
  | zero => rfl
  | succ n =>
    have hs : search re pos (c :: s) =
        (search re (pos + 1) s).map fun (skipped, found, after) => (c :: skipped, found, after) := by
      rw [search.eq_def]
      dsimp only
      rw [h pos s]
      rfl
    rw [pieces, pieces, hs]
    cases search re (pos + 1) s with
    | none => rfl
    | some x =>
      obtain ⟨skipped, found, after⟩ := x
      by_cases hf : found = []
      · simp [hf, before]
      · simp [hf, before, Nat.add_comm, Nat.add_left_comm]

/-- Text of characters no match starts with is skipped. -/
lemma pieces_append {re : Regex} {l : List Char} (h : ∀ c ∈ l, CannotStart re c) (n pos : Nat)
    (s : List Char) :
    pieces re n pos (l ++ s) = before l (pieces re n (pos + l.length) s) := by
  induction l generalizing pos with
  | nil => simp
  | cons c l ih =>
    have hl := ih (fun d hd => h d (List.mem_cons_of_mem c hd)) (pos + 1)
    rw [List.cons_append, pieces_skip (h c List.mem_cons_self), hl, ← before_append,
      List.length_cons, Nat.add_assoc, Nat.add_comm 1]
    rfl

/-- A match at the start of the text is the first of the successive matches. -/
lemma pieces_found {re : Regex} {found s : List Char} {pos : Nat} {t : Cursor}
    (h : (re.node.run ⟨pos, found ++ s, []⟩).head? = some t)
    (ht : t.rest = s ∧ t.pos = pos + found.length) (hf : found ≠ []) (n : Nat) :
    pieces re (n + 1) pos (found ++ s) =
      (([], found) :: (pieces re n (pos + found.length) s).1,
        (pieces re n (pos + found.length) s).2) := by
  have hs : search re pos (found ++ s) = some ([], found, s) := by
    rw [search.eq_def]
    dsimp only
    rw [h]
    simp [Cursor.upTo, ht]
  rw [pieces, hs]
  simp [hf]

/-! ## Compiling literal text -/

/-- With enough fuel, `s` is read up to its end or a closing parenthesis and gives `x`. -/
def Parses (n : Nat) (s : List Char) (x : Node × Nat × List Char) : Prop :=
  ∀ fuel, s.length < fuel → parseSeq fuel n s = some x

lemma Parses.nil (n : Nat) : Parses n [] (.eps, n, []) := by
  rintro (_ | fuel) h
  · exact absurd h (Nat.not_lt_zero _)
  · rfl

lemma Parses.eol {n m : Nat} {s s' : List Char} {q : Node} (h : Parses n s (q, m, s')) :
    Parses n ('$' :: s) (.seq .eol q, m, s') := by
  rintro (_ | fuel) hf
  · exact absurd hf (Nat.not_lt_zero _)
  · rw [parseSeq, h fuel (Nat.lt_of_succ_lt_succ hf)]
    rfl

lemma Parses.bol {n m : Nat} {s s' : List Char} {q : Node} (h : Parses n s (q, m, s')) :
    Parses n ('^' :: s) (.seq .bol q, m, s') := by
  rintro (_ | fuel) hf
  · exact absurd hf (Nat.not_lt_zero _)
  · rw [parseSeq, h fuel (Nat.lt_of_succ_lt_succ hf)]
    rfl

/-- The text does not begin with a quantifier. -/
def NoQuantifier (s : List Char) : Prop := s.head? ≠ some '?' ∧ s.head? ≠ some '+'

lemma NoQuantifier.cons {c : Char} (h : c ≠ '?' ∧ c ≠ '+') (s : List Char) :
    NoQuantifier (c :: s) :=
  ⟨fun e => h.1 (Option.some.inj e), fun e => h.2 (Option.some.inj e)⟩

/-- Text of characters without a meaning of their own puts no quantifier before `s`. -/
lemma NoQuantifier.append {l s : List Char} (hl : ∀ c ∈ l, c ∉ special) (hs : NoQuantifier s) :
    NoQuantifier (l ++ s) := by
  cases l with
  | nil => exact hs
  | cons c l =>
    have hc := hl c List.mem_cons_self
    refine .cons ⟨?_, ?_⟩ _
    · intro e
      exact hc (e ▸ by decide)
    · intro e
      exact hc (e ▸ by decide)

lemma parseQuantifier_none {s : List Char} (h : NoQuantifier s) (r : Node) :
    parseQuantifier r s = (r, s) := by
  unfold parseQuantifier
  split
  · exact absurd rfl h.1
  · exact absurd rfl h.1
  · exact absurd rfl h.2
  · exact absurd rfl h.2
  · rfl

/-- A character without a meaning of its own stands for itself. -/
lemma Parses.chr {n m : Nat} {c : Char} {s s' : List Char} {q : Node} (hc : c ∉ special)
    (hs : NoQuantifier s) (h : Parses n s (q, m, s')) :
    Parses n (c :: s) (.seq (.chr c) q, m, s') := by
  rintro (_ | fuel) hf
  · exact absurd hf (Nat.not_lt_zero _)
  · have hp := h fuel (Nat.lt_of_succ_lt_succ hf)
    rw [parseSeq.eq_def]
    dsimp only
    split
    case h_1 heq => cases heq
    case h_10 heq =>
      cases heq
      rw [if_neg hc, parseQuantifier_none hs, hp]
      rfl
    all_goals
      rename_i heq
      cases heq
      exact (hc (by decide)).elim

/-- Text of such characters stands for itself. -/
lemma Parses.lits {n m : Nat} {l s s' : List Char} {q : Node} (hl : ∀ c ∈ l, c ∉ special)
    (hs : NoQuantifier s) (h : Parses n s (q, m, s')) :
    Parses n (l ++ s) (.lits l q, m, s') := by
  induction l with
  | nil => exact h
  | cons c l ih =>
    have hl' : ∀ d ∈ l, d ∉ special := fun d hd => hl d (List.mem_cons_of_mem c hd)
    exact Parses.chr (hl c List.mem_cons_self) (.append hl' hs) (ih hl')

lemma compile_of_parses {s : List Char} {r : Node} {n : Nat} (h : Parses 0 s (r, n, [])) :
    compile s = some ⟨r, n⟩ := by
  rw [compile, h _ (Nat.lt_succ_self _)]

end Regex
end SampApi.Lib

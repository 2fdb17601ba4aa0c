import Mathlib.Data.List.Infix
import SampApi.Route

/-!
# Url templates

What `Match.test` computes, for templates that are `/`-joined segments, each a literal part that may
be followed by `:` and a key. The regular expressions disappear here: `Template.test_eq` says that a
template matches a url exactly if the url, split at every `/`, fits the segments one by one, and that
the captures are the texts behind the literal parts, in order.

The proof follows the code. `Segment.pieces` finds the keys of a template and the expression they are
replaced by, `Segment.parses` compiles that expression, and `Segment.run` and `segments_run` match
it: a capture is lazy, but what follows it can only start at a `/`, so it takes the whole segment.
-/

namespace SampApi
open Lib Lib.Regex

/-- A segment of a template. -/
structure Segment where
  lit : Str
  key : Option Str
  lit_plain : ∀ c ∈ lit, c ∉ special ∧ c ≠ ':' ∧ c ≠ '/'
  key_plain : ∀ k ∈ key, '/' ∉ k

namespace Segment

/-- The text of a segment. -/
def text (x : Segment) : Str :=
  x.lit ++ match x.key with
    | none => []
    | some k => ':' :: k

/-- How many captures a segment has. -/
def marks (x : Segment) : Nat := x.key.toList.length

/-- The captures of a segment on a piece of a url, if the piece fits. -/
def fit (x : Segment) (p : Str) : Option (List Str) :=
  match x.key with
  | none => if p = x.lit then some [] else none
  | some _ => if x.lit <+: p ∧ p ≠ x.lit then some [p.drop x.lit.length] else none

end Segment

/-- A template: its first segment and the segments behind a `/` each. -/
structure Template where
  first : Segment
  rest : List Segment

/-- The text of the segments behind a `/` each. -/
def slashed (xs : List Segment) : Str := xs.flatMap fun x => '/' :: x.text

namespace Template

/-- The text of a template. -/
def text (t : Template) : Str := t.first.text ++ slashed t.rest

/-- The segments of a template. -/
def segments (t : Template) : List Segment := t.first :: t.rest

/-- The keys of a template. -/
def keys (t : Template) : List Str := t.segments.flatMap fun x => x.key.toList

end Template

/-- The captures of a list of segments on the pieces of a url, if all of them fit. -/
def fits : List Segment → List Str → Option (List Str)
  | [], [] => some []
  | x :: xs, p :: ps => (x.fit p).bind fun c => (fits xs ps).map (c ++ ·)
  | _, _ => none

/-- Nothing follows, or a `/`. -/
def AtSlash (s : Str) : Prop := ∀ c ∈ s.head?, c = '/'

lemma AtSlash.nil : AtSlash [] := by
  intro c hc
  cases hc

lemma AtSlash.cons (s : Str) : AtSlash ('/' :: s) := by
  intro c hc
  cases hc
  rfl

lemma atSlash_slashed (xs : List Segment) : AtSlash (slashed xs) := by
  cases xs with
  | nil => exact .nil
  | cons x xs => exact .cons _

/-! ## The keys of a template -/

/-- The compiled pattern of the captures in a template. -/
def keyRegex : Regex :=
  ⟨.seq (.chr ':') (.seq (.opt true (.capture 1 (.seq (.plus true (.set true ['/'])) .eps))) .eps), 1⟩

lemma regex_path_pattern : regex path_pattern = .ok keyRegex := by rfl

/-- Setting a url always succeeds. -/
lemma Route.set_eq (route : Route) (u : Str) :
    route.set u = .ok ({ route with url := u, path_to_regex := keyRegex }, {}) := by
  rw [Route.set, regex_path_pattern]
  rfl

lemma keyRegex_cannotStart {c : Char} (h : c ≠ ':') : CannotStart keyRegex c := by
  intro pos rest
  simp [keyRegex, Node.run, h]

/-- The characters up to a `/` are the longest run that is not `/`. -/
lemma span_piece {s : Cursor} {k r : Str} (hr : s.rest = k ++ r) (hk : '/' ∉ k) (hs : AtSlash r) :
    s.span (inSet true ['/']) = k.length := by
  have hk' : ∀ c ∈ k, inSet true ['/'] c = true := by
    intro c hc
    have hne : c ≠ '/' := fun e => hk (e ▸ hc)
    simp [inSet, hne]
  have hr' : r.takeWhile (inSet true ['/']) = [] := by
    cases r with
    | nil => rfl
    | cons c r =>
      have e := hs c rfl
      subst e
      rfl
  rw [Cursor.span, hr, List.takeWhile_append_of_pos hk', hr', List.append_nil]

/-- At a `:` the pattern matches up to the next `/`. -/
lemma keyRegex_head (pos : Nat) {k r : Str} (hk : '/' ∉ k) (hr : AtSlash r) :
    ∃ t, (keyRegex.node.run ⟨pos, (':' :: k) ++ r, []⟩).head? = some t ∧
      t.rest = r ∧ t.pos = pos + (':' :: k).length := by
  let u : Cursor := ⟨pos + 1, k ++ r, []⟩
  have hspan : u.span (inSet true ['/']) = k.length := span_piece rfl hk hr
  have hrun : keyRegex.node.run ⟨pos, (':' :: k) ++ r, []⟩ =
      (((Node.plus true (.set true ['/'])).run u).map fun t =>
        { t with caps := (1, u.upTo t) :: t.caps }).filter (fun t => u.pos < t.pos) ++ [u] := by
    simp [keyRegex, Node.run, prefer, Cursor.advance, u]
  have hhead := run_plus_set_head true ['/'] u
  rw [hspan] at hhead
  rw [hrun]
  cases k with
  | nil =>
    rw [List.head?_eq_none_iff.1 hhead]
    exact ⟨u, rfl, rfl, rfl⟩
  | cons c k =>
    obtain ⟨l, hl⟩ := List.head?_eq_some_iff.1 hhead
    rw [hl]
    refine ⟨{ u.advance (k.length + 1) with caps := (1, u.upTo (u.advance (k.length + 1))) :: [] },
      ?_, ?_, ?_⟩
    · simp [u, Cursor.advance]
    · simp [u, Cursor.advance]
    · simp only [u, Cursor.advance, List.length_cons]
      omega

/-- A segment of a template contributes its key, and its literal part with the key replaced. -/
lemma Segment.pieces (x : Segment) {r : Str} (hr : AtSlash r) (n pos : Nat)
    (hn : (x.text ++ r).length ≤ n) :
    ∃ m pos', r.length ≤ m ∧
      founds (Regex.pieces keyRegex n pos (x.text ++ r)) =
        x.key.toList.map (':' :: ·) ++ founds (Regex.pieces keyRegex m pos' r) ∧
      replaced capture_pattern (Regex.pieces keyRegex n pos (x.text ++ r)) =
        x.lit ++ (x.key.toList.flatMap fun _ => capture_pattern) ++
          replaced capture_pattern (Regex.pieces keyRegex m pos' r) := by
  have hlit : ∀ c ∈ x.lit, CannotStart keyRegex c := fun c hc =>
    keyRegex_cannotStart (x.lit_plain c hc).2.1
  obtain ⟨lit, key, lit_plain, key_plain⟩ := x
  cases key with
  | none =>
    simp only [text, List.append_nil] at hn hlit ⊢
    rw [pieces_append hlit]
    refine ⟨n, pos + lit.length, ?_, ?_, ?_⟩
    · rw [List.length_append] at hn
      omega
    · simp
    · simp
  | some k =>
    have hk : '/' ∉ k := key_plain k rfl
    simp only [text, List.append_assoc] at hn hlit ⊢
    rw [pieces_append hlit]
    simp only [List.length_append, List.length_cons] at hn
    obtain ⟨n, rfl⟩ : ∃ m, n = m + 1 := ⟨n - 1, by omega⟩
    obtain ⟨t, ht, hrest⟩ := keyRegex_head (pos + lit.length) hk hr
    rw [pieces_found ht hrest (List.cons_ne_nil _ _)]
    refine ⟨n, pos + lit.length + (':' :: k).length, ?_, ?_, ?_⟩
    · omega
    · rw [founds_before]
      simp [founds]
    · rw [replaced_before]
      simp [replaced]

/-- The expression a segment is replaced by. -/
def Segment.exp (x : Segment) : Str := x.lit ++ x.key.toList.flatMap fun _ => capture_pattern

/-- The expression of the segments behind a `/` each. -/
def slashedExp (xs : List Segment) : Str := xs.flatMap fun x => '/' :: x.exp

lemma pieces_keyRegex_nil (n pos : Nat) : Regex.pieces keyRegex n pos [] = ([], []) := by
  cases n with
  | zero => rfl
  | succ n => simp [Regex.pieces, search, keyRegex, Node.run]

lemma slashed_pieces (xs : List Segment) (n pos : Nat) (hn : (slashed xs).length ≤ n) :
    founds (Regex.pieces keyRegex n pos (slashed xs)) =
        (xs.flatMap fun x => x.key.toList).map (':' :: ·) ∧
      replaced capture_pattern (Regex.pieces keyRegex n pos (slashed xs)) = slashedExp xs := by
  induction xs generalizing n pos with
  | nil =>
    rw [slashed, List.flatMap_nil, pieces_keyRegex_nil]
    exact ⟨rfl, rfl⟩
  | cons x xs ih =>
    have hcons : slashed (x :: xs) = '/' :: (x.text ++ slashed xs) := rfl
    rw [hcons, List.length_cons] at hn
    obtain ⟨m, pos', hm, hf, hr⟩ := x.pieces (atSlash_slashed xs) n (pos + 1) (by omega)
    obtain ⟨ihf, ihr⟩ := ih m pos' hm
    rw [hcons, pieces_skip (keyRegex_cannotStart (by decide)), founds_before, replaced_before, hf, hr,
      ihf, ihr]
    refine ⟨?_, ?_⟩
    · simp
    · simp [slashedExp, Segment.exp]

namespace Template

/-- The expression of a template. -/
def exp (t : Template) : Str := t.first.exp ++ slashedExp t.rest

/-- The pattern finds the keys of a template, each with its `:`. -/
lemma tokens_text (t : Template) : tokens keyRegex t.text = t.keys.map (':' :: ·) := by
  obtain ⟨m, pos, hm, hf, -⟩ := t.first.pieces (atSlash_slashed t.rest) t.text.length 0 (Nat.le_refl _)
  refine (tokens_eq _ _).trans (hf.trans ?_)
  rw [(slashed_pieces t.rest m pos hm).1]
  simp [keys, segments]

/-- Replacing the keys of a template gives its expression. -/
lemma regexReplace_text (t : Template) : regexReplace keyRegex capture_pattern t.text = t.exp := by
  obtain ⟨m, pos, hm, -, hr⟩ := t.first.pieces (atSlash_slashed t.rest) t.text.length 0 (Nat.le_refl _)
  refine (regexReplace_eq _ _ _).trans (hr.trans ?_)
  rw [(slashed_pieces t.rest m pos hm).2]
  rfl

end Template

/-! ## The expression of a template -/

/-- A compiled capture. -/
def captureNode (i : Nat) : Node :=
  .seq (.capture i (.seq (.plus false (.set true ['/'])) .eps)) .eps

/-- A compiled segment, after `n` captures and before `q`. -/
def Segment.node (x : Segment) (n : Nat) (q : Node) : Node :=
  .lits x.lit (match x.key with
    | none => q
    | some _ => .seq (captureNode (n + 1)) q)

/-- The compiled segments behind a `/` each, and the end of the url. -/
def tailNode : List Segment → Nat → Node
  | [], _ => .seq .eol .eps
  | x :: xs, n => .seq (.chr '/') (x.node n (tailNode xs (n + x.marks)))

/-- The compiled template. -/
def Template.node (t : Template) : Node :=
  .seq .bol (t.first.node 0 (tailNode t.rest t.first.marks))

/-- The text of a capture compiles to a capture. -/
lemma parses_capture {n m : Nat} {s s' : Str} {q : Node} (hs : NoQuantifier s)
    (h : Parses (n + 1) s (q, m, s')) :
    Parses n (capture_pattern ++ s) (.seq (captureNode (n + 1)) q, m, s') := by
  intro fuel hf
  have hlen : (capture_pattern ++ s).length = s.length + 13 := by
    rw [List.length_append]
    exact Nat.add_comm _ _
  rw [hlen] at hf
  obtain ⟨f, rfl⟩ : ∃ f, fuel = f + 5 := ⟨fuel - 5, by omega⟩
  have hq := h (f + 4) (by omega)
  show parseSeq (f + 5) n
    ('(' :: '?' :: ':' :: '(' :: '[' :: '^' :: '\\' :: '/' :: ']' :: '+' :: '?' :: ')' :: ')' :: s) = _
  have hgroup : parseSeq (f + 4) n
      ('(' :: '[' :: '^' :: '\\' :: '/' :: ']' :: '+' :: '?' :: ')' :: ')' :: s) =
      some (captureNode (n + 1), n + 1, ')' :: s) := by rfl
  rw [parseSeq, hgroup]
  simp only [parseQuantifier_none hs, hq]
  rfl

lemma Segment.lit_special (x : Segment) : ∀ c ∈ x.lit, c ∉ special := fun c hc => (x.lit_plain c hc).1

lemma Segment.noQuantifier (x : Segment) {s : Str} (hs : NoQuantifier s) :
    NoQuantifier (x.exp ++ s) := by
  rw [exp, List.append_assoc]
  apply NoQuantifier.append x.lit_special
  cases x.key with
  | none => exact hs
  | some k => exact .cons (by decide) _

/-- The expression of a segment compiles to the segment. -/
lemma Segment.parses (x : Segment) {n m : Nat} {s s' : Str} {q : Node} (hs : NoQuantifier s)
    (h : Parses (n + x.marks) s (q, m, s')) : Parses n (x.exp ++ s) (x.node n q, m, s') := by
  have hlit := x.lit_special
  obtain ⟨lit, key, lit_plain, key_plain⟩ := x
  cases key with
  | none =>
    simp only [exp, Option.toList_none, List.flatMap_nil, List.append_nil]
    exact Parses.lits hlit hs h
  | some k =>
    simp only [exp, Option.toList_some, List.flatMap_singleton, List.append_assoc]
    exact Parses.lits hlit (.cons (by decide) _) (parses_capture hs h)

/-- The expression of the segments behind a `/` each, up to the end, compiles to these segments. -/
lemma parses_tail (xs : List Segment) (n : Nat) :
    NoQuantifier (slashedExp xs ++ "$".toList) ∧
      Parses n (slashedExp xs ++ "$".toList) (tailNode xs n, n + (xs.map Segment.marks).sum, []) := by
  induction xs generalizing n with
  | nil => exact ⟨.cons (by decide) _, .eol (.nil _)⟩
  | cons x xs ih =>
    obtain ⟨hq, hp⟩ := ih (n + x.marks)
    have hcons : slashedExp (x :: xs) ++ "$".toList =
        '/' :: (x.exp ++ (slashedExp xs ++ "$".toList)) := by
      simp [slashedExp]
    rw [hcons, List.map_cons, List.sum_cons, ← Nat.add_assoc]
    refine ⟨.cons (by decide) _, ?_⟩
    exact Parses.chr (by decide) (x.noQuantifier hq) (x.parses hq hp)

namespace Template

/-- How many captures a template has. -/
def marks (t : Template) : Nat := (t.segments.map Segment.marks).sum

/-- A template compiles. -/
lemma compile_text (t : Template) {route : Route} (hr : route.path_to_regex = keyRegex) :
    route.compile t.text = .ok ⟨⟨t.node, t.marks⟩, t.keys⟩ := by
  have hp : Parses 0 ("^".toList ++ t.exp ++ "$".toList) (t.node, t.marks, []) := by
    obtain ⟨hq, hp⟩ := parses_tail t.rest t.first.marks
    have e : "^".toList ++ t.exp ++ "$".toList =
        '^' :: (t.first.exp ++ (slashedExp t.rest ++ "$".toList)) := by
      simp [exp]
    have hfirst := t.first.parses (n := 0) hq (by rwa [Nat.zero_add])
    rw [e]
    exact .bol hfirst
  have hkeys : (tokens keyRegex t.text).map (fun key => key.drop 1) = t.keys := by
    rw [tokens_text, List.map_map]
    exact List.map_id _
  have hre : regex ("^".toList ++ t.exp ++ "$".toList) = .ok ⟨t.node, t.marks⟩ := by
    rw [regex, compile_of_parses hp]
  rw [Route.compile, hr, hkeys, regexReplace_text]
  show (regex _ >>= _) = _
  rw [hre]
  rfl

end Template

/-! ## Matching -/

lemma tail_not_slash (xs : List Segment) (n : Nat) {t : Cursor} {c : Char}
    (h : t.rest.head? = some c) (hc : c ≠ '/') : (tailNode xs n).run t = [] := by
  cases xs with
  | nil =>
    have hne : t.rest ≠ [] := by
      intro e
      rw [e] at h
      cases h
    simp [tailNode, Node.run, hne]
  | cons x xs =>
    have hne : t.rest.head? ≠ some '/' := by
      rw [h]
      exact fun e => hc (Option.some.inj e)
    simp [tailNode, Node.run, hne]

/-- The cursor after the captures `cs`, the first of them with number `n + 1`. -/
def Cursor.addCaps (n : Nat) : List Str → Cursor → Cursor
  | [], s => s
  | c :: cs, s => addCaps (n + 1) cs { s with caps := (n + 1, c) :: s.caps }

/-- Text without `/` stands at the front of a url exactly if it stands at the front of its first
    piece. -/
lemma prefix_piece {l p r : Str} (hl : '/' ∉ l) (hr : AtSlash r) : l <+: p ++ r ↔ l <+: p := by
  refine ⟨fun h => ?_, fun h => h.trans (List.prefix_append p r)⟩
  rcases Nat.le_total l.length p.length with hle | hle
  · exact List.prefix_of_prefix_length_le h (List.prefix_append p r) hle
  · obtain ⟨d, rfl⟩ := List.prefix_of_prefix_length_le (List.prefix_append p r) h hle
    have hd : d <+: r := (List.prefix_append_right_inj p).1 h
    cases d with
    | nil => simp
    | cons c d =>
      obtain ⟨e, rfl⟩ := hd
      have hc : c = '/' := hr c rfl
      exact absurd (by simp [hc]) hl

/-- A capture before something that can only start at a `/` takes the rest `d` of a piece, which must
    not be empty. -/
lemma run_capture (n : Nat) {q : Node} {t : Cursor} {d r : Str}
    (hq : ∀ u c, u.rest.head? = some c → c ≠ '/' → q.run u = [])
    (ht : t.rest = d ++ r) (hd : '/' ∉ d) (hr : AtSlash r) :
    (Node.seq (captureNode (n + 1)) q).run t =
      if d = [] then [] else q.run { t.advance d.length with caps := (n + 1, d) :: t.caps } := by
  have hcap := run_plus_set_flatMap false true ['/'] t
    (K := fun u => q.run { u with caps := (n + 1, t.upTo u) :: u.caps })
    (fun m hm => by
      obtain ⟨c, hc, hne⟩ := (Option.any_eq_true _ _).1 hm
      exact hq _ c hc (fun e => absurd (e ▸ hne) (by decide)))
  rw [span_piece ht hd hr] at hcap
  have hnode : (Node.seq (captureNode (n + 1)) q).run t =
      ((Node.plus false (.set true ['/'])).run t).flatMap fun u =>
        q.run { u with caps := (n + 1, t.upTo u) :: u.caps } := by
    simp [captureNode, Node.run, List.flatMap_assoc, List.flatMap_map]
  rw [hnode, hcap]
  cases d with
  | nil => rfl
  | cons c d =>
    have htake : t.upTo (t.advance (c :: d).length) = c :: d := by
      rw [Cursor.upTo_advance, ht]
      exact List.take_left
    have hlength : (c :: d).length ≠ 0 := Nat.succ_ne_zero d.length
    rw [if_neg hlength, if_neg (List.cons_ne_nil c d), htake]
    rfl

/-- A segment before something that can only start at a `/` takes the whole piece `p` of the url,
    or does not match. -/
lemma Segment.run (x : Segment) (n : Nat) {q : Node} {s : Cursor} {p r : Str}
    (hq : ∀ t c, t.rest.head? = some c → c ≠ '/' → q.run t = [])
    (hs : s.rest = p ++ r) (hp : '/' ∉ p) (hr : AtSlash r) :
    (x.node n q).run s =
      match x.fit p with
      | none => []
      | some cs => q.run (Cursor.addCaps n cs (s.advance p.length)) := by
  have hlit : '/' ∉ x.lit := fun h => (x.lit_plain _ h).2.2 rfl
  have hpre : x.lit <+: s.rest ↔ x.lit <+: p := hs ▸ prefix_piece hlit hr
  obtain ⟨lit, key, lit_plain, key_plain⟩ := x
  rw [node, run_lits]
  simp only [hpre, fit]
  by_cases hl : lit <+: p
  · obtain ⟨d, rfl⟩ := hl
    have hrest : (s.advance lit.length).rest = d ++ r := by simp [hs]
    have hd : '/' ∉ d := fun h => hp (List.mem_append_right lit h)
    cases key with
    | none =>
      cases d with
      | nil => simp [Cursor.addCaps]
      | cons c d =>
        -- the literal part ends inside the piece
        have hc : c ≠ '/' := fun e => hd (e ▸ List.mem_cons_self)
        have hhead : (s.advance lit.length).rest.head? = some c := by rw [hrest]; rfl
        simp [hq _ c hhead hc]
    | some k =>
      rw [if_pos (List.prefix_append lit d), run_capture n hq hrest hd hr]
      cases d with
      | nil => simp
      | cons c d =>
        have hne : lit ++ c :: d ≠ lit := by simp
        rw [if_neg (List.cons_ne_nil c d), List.drop_left, Cursor.advance_advance,
          ← List.length_append]
        dsimp only
        rw [if_pos ⟨List.prefix_append lit (c :: d), hne⟩]
        rfl
  · cases key with
    | none =>
      have hne : p ≠ lit := fun e => hl (e ▸ List.prefix_rfl)
      simp [hl, hne]
    | some k => simp [hl]

lemma Cursor.addCaps_advance (n : Nat) (cs : List Str) (s : Cursor) (k : Nat) :
    (addCaps n cs s).advance k = addCaps n cs (s.advance k) := by
  induction cs generalizing n s with
  | nil => rfl
  | cons c cs ih => exact ih (n + 1) _

lemma Cursor.addCaps_rest (n : Nat) (cs : List Str) (s : Cursor) :
    (addCaps n cs s).rest = s.rest := by
  induction cs generalizing n s with
  | nil => rfl
  | cons c cs ih => exact ih (n + 1) _

lemma Cursor.addCaps_pos (n : Nat) (cs : List Str) (s : Cursor) :
    (addCaps n cs s).pos = s.pos := by
  induction cs generalizing n s with
  | nil => rfl
  | cons c cs ih => exact ih (n + 1) _

lemma Cursor.addCaps_append (n : Nat) (cs ds : List Str) (s : Cursor) :
    addCaps n (cs ++ ds) s = addCaps (n + cs.length) ds (addCaps n cs s) := by
  induction cs generalizing n s with
  | nil => rfl
  | cons c cs ih =>
    have h := ih (n + 1) { s with caps := (n + 1, c) :: s.caps }
    rwa [Nat.add_right_comm] at h

/-- A piece of a url fills exactly the captures of a segment. -/
lemma Segment.fit_length {x : Segment} {p : Str} {cs : List Str} (h : x.fit p = some cs) :
    cs.length = x.marks := by
  unfold fit at h
  unfold marks
  cases hk : x.key with
  | none =>
    simp only [hk, Option.ite_none_right_eq_some, Option.some.injEq] at h
    rw [← h.2]
    rfl
  | some k =>
    simp only [hk, Option.ite_none_right_eq_some, Option.some.injEq] at h
    rw [← h.2]
    rfl

/-- A url has one piece, or a first piece and the pieces of what is behind its first `/`. -/
lemma splitOn_cases (u : Str) :
    ('/' ∉ u ∧ u.splitOn '/' = [u]) ∨
      ∃ p r, u = p ++ '/' :: r ∧ '/' ∉ p ∧ u.splitOn '/' = p :: r.splitOn '/' := by
  by_cases h : '/' ∈ u
  · obtain ⟨p, r, rfl, hp⟩ := List.eq_append_cons_of_mem h
    exact .inr ⟨p, r, rfl, hp, List.splitOn_append_cons_self_of_not_mem hp r⟩
  · exact .inl ⟨h, List.splitOn_eq_singleton h⟩

/-- Segments up to the end of the url take all its pieces, or do not match. -/
lemma segments_run (x : Segment) (xs : List Segment) (n : Nat) (s : Cursor) :
    (x.node n (tailNode xs (n + x.marks))).run s =
      match fits (x :: xs) (s.rest.splitOn '/') with
      | none => []
      | some cs => [Cursor.addCaps n cs (s.advance s.rest.length)] := by
  induction xs generalizing x n s with
  | nil =>
    have hq : ∀ t c, t.rest.head? = some c → c ≠ '/' → (tailNode [] (n + x.marks)).run t = [] :=
      fun t c => tail_not_slash [] (n + x.marks)
    rcases splitOn_cases s.rest with ⟨hp, hsp⟩ | ⟨p, r, hr, hp, hsp⟩
    · rw [x.run n hq (List.append_nil _).symm hp .nil, hsp]
      cases hf : x.fit s.rest with
      | none => simp [fits, hf]
      | some cs =>
        have hrest : (Cursor.addCaps n cs (s.advance s.rest.length)).rest = [] := by
          simp [Cursor.addCaps_rest]
        simp [fits, hf, tailNode, Node.run, hrest]
    · rw [x.run n hq hr hp (.cons r), hsp]
      have hne : fits [] (r.splitOn '/') = none := by
        cases h : r.splitOn '/' with
        | nil => exact absurd h (List.splitOn_ne_nil _ _)
        | cons _ _ => rfl
      cases hf : x.fit p with
      | none => simp [fits, hf]
      | some cs =>
        have hrest : (Cursor.addCaps n cs (s.advance p.length)).rest ≠ [] := by
          simp [Cursor.addCaps_rest, hr]
        simp [fits, hf, hne, tailNode, Node.run, hrest]
  | cons y ys ih =>
    have hq : ∀ t c, t.rest.head? = some c → c ≠ '/' →
        (tailNode (y :: ys) (n + x.marks)).run t = [] :=
      fun t c => tail_not_slash (y :: ys) (n + x.marks)
    rcases splitOn_cases s.rest with ⟨hp, hsp⟩ | ⟨p, r, hr, hp, hsp⟩
    · rw [x.run n hq (List.append_nil _).symm hp .nil, hsp]
      cases hf : x.fit s.rest with
      | none => simp [fits, hf]
      | some cs => simp [fits, hf, tailNode, Node.run, Cursor.addCaps_rest]
    · rw [x.run n hq hr hp (.cons r), hsp]
      cases hf : x.fit p with
      | none => simp [fits, hf]
      | some cs =>
        have hrest : (Cursor.addCaps n cs (s.advance p.length)).rest = '/' :: r := by
          simp [Cursor.addCaps_rest, hr]
        have hslash : (tailNode (y :: ys) (n + x.marks)).run
              (Cursor.addCaps n cs (s.advance p.length)) =
            (y.node (n + x.marks) (tailNode ys (n + x.marks + y.marks))).run
              ((Cursor.addCaps n cs (s.advance p.length)).advance 1) := by
          simp [tailNode, Node.run, hrest]
        have hlen : p.length + (1 + r.length) = s.rest.length := by
          rw [hr, List.length_append, List.length_cons]
          omega
        dsimp only
        rw [hslash, ih, Cursor.advance_rest, hrest, List.drop_one, List.tail_cons]
        cases hfs : fits (y :: ys) (r.splitOn '/') with
        | none => simp [fits, hf, hfs]
        | some ds =>
          have hall : fits (x :: y :: ys) (p :: r.splitOn '/') = some (cs ++ ds) := by
            rw [fits, hf, hfs]
            rfl
          rw [hall]
          dsimp only
          rw [Cursor.addCaps_append, Segment.fit_length hf, Cursor.addCaps_advance,
            Cursor.addCaps_advance, Cursor.advance_advance, Cursor.advance_advance, hlen]

/-- Pieces fill exactly the captures of the segments they fit. -/
lemma fits_length {xs : List Segment} {ps cs : List Str} (h : fits xs ps = some cs) :
    cs.length = (xs.map Segment.marks).sum := by
  induction xs generalizing ps cs with
  | nil =>
    cases ps with
    | nil =>
      cases h
      rfl
    | cons p ps => cases h
  | cons x xs ih =>
    cases ps with
    | nil => cases h
    | cons p ps =>
      simp only [fits, Option.bind_eq_some_iff, Option.map_eq_some_iff] at h
      obtain ⟨c, hc, ds, hds, rfl⟩ := h
      rw [List.length_append, Segment.fit_length hc, ih hds]
      rfl

/-- Older captures stay behind the new ones. -/
lemma Cursor.addCaps_lookup_le (n : Nat) (cs : List Str) (s : Cursor) {j : Nat} (h : j ≤ n) :
    (addCaps n cs s).caps.lookup j = s.caps.lookup j := by
  induction cs generalizing n s with
  | nil => rfl
  | cons c cs ih =>
    have hne : j ≠ n + 1 := by omega
    rw [addCaps, ih (n + 1) _ (by omega), List.lookup_cons, beq_false_of_ne hne]

/-- The captures are found under their numbers. -/
lemma Cursor.addCaps_lookup (n : Nat) (cs : List Str) (s : Cursor) {i : Nat} (h : i < cs.length) :
    (addCaps n cs s).caps.lookup (n + i + 1) = some cs[i] := by
  induction cs generalizing n s i with
  | nil => exact absurd h (Nat.not_lt_zero i)
  | cons c cs ih =>
    cases i with
    | zero =>
      rw [addCaps, addCaps_lookup_le (n + 1) cs _ (Nat.le_refl (n + 1))]
      exact List.lookup_cons_self
    | succ i =>
      have hi := ih (n + 1) { s with caps := (n + 1, c) :: s.caps } (Nat.lt_of_succ_lt_succ h)
      rw [show n + 1 + i + 1 = n + (i + 1) + 1 from by omega] at hi
      exact hi

/-! ## The test -/

/-- Stores one capture under its key, unless the key has one. -/
def Match.put (m : Match) (e : Str × Str) : Match := ⟨m.pairs.emplace e.1 e.2, m.keys + 1⟩

/-- A match with the captures `values` under the keys. -/
def Match.ofCaptures (keys values : List Str) : Match := (keys.zip values).foldl put {}

lemma Match.insertPairs_eq (m : Match) {keys values : List Str}
    (h : values.length ≤ keys.length) :
    m.insertPairs keys values = .ok ((keys.zip values).foldl put m) := by
  induction values generalizing m keys with
  | nil => cases keys <;> rfl
  | cons v values ih =>
    cases keys with
    | nil => exact absurd h (Nat.not_succ_le_zero _)
    | cons k keys => exact ih (m.put (k, v)) (Nat.le_of_succ_le_succ h)

lemma Match.foldl_put_find? (m : Match) (l : List (Str × Str)) (k : Str) :
    (l.foldl put m).pairs.find? k = (m.pairs.find? k).or (l.lookup k) := by
  induction l generalizing m with
  | nil => simp
  | cons e l ih =>
    obtain ⟨a, b⟩ := e
    rw [List.foldl_cons, ih, put, OrdMap.find?_emplace]
    by_cases e : k = a
    · subst e
      cases hf : m.pairs.find? k <;> simp
    · rw [if_neg e, List.lookup_cons, beq_false_of_ne e]

/-- The text captured for a key is the one of its first occurrence, and empty if it has none. -/
lemma Match.get_ofCaptures (keys values : List Str) (k : Str) :
    (Match.ofCaptures keys values).get k = ((keys.zip values).lookup k).getD [] := by
  rw [get, ofCaptures, foldl_put_find?]
  rfl

namespace Template

lemma length_keys (t : Template) : t.keys.length = t.marks := by
  rw [keys, List.length_flatMap]
  rfl

/-- Matching the compiled template against a whole url. -/
lemma regexMatch_node (t : Template) (u : Str) :
    regexMatch ⟨t.node, t.marks⟩ u =
      (fits t.segments (u.splitOn '/')).map fun cs => u :: cs := by
  have hrun := segments_run t.first t.rest 0 ⟨0, u, []⟩
  rw [Nat.zero_add] at hrun
  have hnode : t.node.run ⟨0, u, []⟩ =
      (t.first.node 0 (tailNode t.rest t.first.marks)).run ⟨0, u, []⟩ := by
    simp [node, Node.run]
  rw [regexMatch, hnode, hrun]
  cases hf : fits (t.first :: t.rest) (u.splitOn '/') with
  | none => simp [segments, hf]
  | some cs =>
    let final := Cursor.addCaps 0 cs (Cursor.advance ⟨0, u, []⟩ u.length)
    have hrest : final.rest = [] := by simp [final, Cursor.addCaps_rest]
    have hpos : final.pos = u.length := by simp [final, Cursor.addCaps_pos]
    have hlen : cs.length = t.marks := fits_length hf
    have hcaps : (List.range t.marks).map (fun i => (final.caps.lookup (i + 1)).getD []) = cs := by
      apply List.ext_getElem
      · simp [hlen]
      · intro i h1 h2
        have hi := Cursor.addCaps_lookup 0 cs (Cursor.advance ⟨0, u, []⟩ u.length) h2
        rw [Nat.zero_add] at hi
        simp [final, hi]
    have hsub : submatches ⟨t.node, t.marks⟩ ⟨0, u, []⟩ final = u :: cs := by
      rw [submatches, hcaps, Cursor.upTo, hpos]
      simp
    show (List.find? (fun t => decide (t.rest = [])) [final]).map _ = _
    rw [List.find?_cons_of_pos (by simpa using hrest), Option.map_some, hsub, segments, hf]
    rfl

/-- What `Match.test` computes for a template: whether the pieces of the url fit its segments, and the
    captures under the keys; nothing of an earlier test is left in the match. -/
theorem test_eq (t : Template) {route : Route} (hr : route.path_to_regex = keyRegex)
    (hc : route.cache.find? t.text = none) (m : Match) :
    Match.test route m t.text = .ok
      (match fits t.segments (route.url.splitOn '/') with
      | none => (false, {})
      | some cs => (true, Match.ofCaptures t.keys cs)) := by
  have hcompile := t.compile_text hr
  rw [Match.test, hc]
  show (route.compile t.text >>= _) = _
  rw [hcompile]
  simp only [bind, Except.bind]
  rw [regexMatch_node]
  cases hf : fits t.segments (route.url.splitOn '/') with
  | none => rfl
  | some cs =>
    have hlen : cs.length ≤ t.keys.length := by
      rw [length_keys, fits_length hf]
      exact Nat.le_refl _
    have hput := Match.insertPairs_eq {} hlen
    show (Match.insertPairs {} t.keys cs >>= _) = _
    rw [hput]
    rfl

end Template

end SampApi

import SampApi.Template

/-!
# What a template matches

`Match.test` compared with the way a template is read: piece by piece of the url, where a piece is the
literal part of its segment, with more behind it if the segment has a key. `Template.test_eq` says what
the test computes; here its captures are found again in the pieces (`fits_eq_some`, `lookup_allCaptures`),
and `test_segments` puts this together for a route and a match with any history.
-/

namespace SampApi
open Lib Lib.Regex

/-! ## Pieces of a url -/

namespace Segment

/-- The segment takes a piece of a url: the piece is the literal part, with at least one more character
    behind it if the segment has a key. -/
def Takes (x : Segment) (p : Str) : Prop :=
  match x.key with
  | none => p = x.lit
  | some _ => ∃ c s, p = x.lit ++ c :: s

/-- What stands behind the literal part in a piece. -/
def behind (x : Segment) (p : Str) : Str := p.drop x.lit.length

/-- What the segment captures of a piece. -/
def captures (x : Segment) (p : Str) : List Str := x.key.toList.map fun _ => x.behind p

lemma prefix_iff {l p : Str} : (l <+: p ∧ p ≠ l) ↔ ∃ c s, p = l ++ c :: s := by
  constructor
  · intro h
    obtain ⟨⟨s, rfl⟩, hne⟩ := h
    cases s with
    | nil => exact absurd (List.append_nil l) hne
    | cons c s => exact ⟨c, s, rfl⟩
  · intro h
    obtain ⟨c, s, rfl⟩ := h
    refine ⟨List.prefix_append l _, fun e => ?_⟩
    cases List.append_right_eq_self.1 e

lemma fit_eq_some {x : Segment} {p : Str} {cs : List Str} :
    x.fit p = some cs ↔ x.Takes p ∧ cs = x.captures p := by
  rw [fit, Takes, captures]
  cases x.key with
  | none =>
    show (if p = x.lit then some [] else none) = some cs ↔ p = x.lit ∧ cs = []
    rw [Option.ite_none_right_eq_some, Option.some.injEq]
    exact and_congr_right fun _ => eq_comm
  | some k =>
    show (if x.lit <+: p ∧ p ≠ x.lit then some [p.drop x.lit.length] else none) = some cs ↔
      (∃ c s, p = x.lit ++ c :: s) ∧ cs = [x.behind p]
    rw [Option.ite_none_right_eq_some, Option.some.injEq, prefix_iff]
    exact and_congr_right fun _ => eq_comm

end Segment

/-- What a list of segments captures of the pieces of a url. -/
def allCaptures (xs : List Segment) (ps : List Str) : List Str :=
  (xs.zip ps).flatMap fun e => e.1.captures e.2

lemma fits_eq_some {xs : List Segment} {ps cs : List Str} :
    fits xs ps = some cs ↔ List.Forall₂ Segment.Takes xs ps ∧ cs = allCaptures xs ps := by
  induction xs generalizing ps cs with
  | nil =>
    cases ps with
    | nil =>
      constructor
      · intro h
        cases h
        exact ⟨.nil, rfl⟩
      · intro h
        obtain ⟨-, rfl⟩ := h
        rfl
    | cons p ps =>
      constructor
      · intro h
        cases h
      · intro h
        cases h.1
  | cons x xs ih =>
    cases ps with
    | nil =>
      constructor
      · intro h
        cases h
      · intro h
        cases h.1
    | cons p ps =>
      rw [fits, Option.bind_eq_some_iff]
      constructor
      · intro h
        obtain ⟨c, hc, h⟩ := h
        obtain ⟨cs', hcs, rfl⟩ := Option.map_eq_some_iff.1 h
        obtain ⟨hx, rfl⟩ := Segment.fit_eq_some.1 hc
        obtain ⟨hxs, rfl⟩ := ih.1 hcs
        exact ⟨.cons hx hxs, rfl⟩
      · intro h
        obtain ⟨hall, rfl⟩ := h
        cases hall with
        | cons hx hxs =>
          refine ⟨_, Segment.fit_eq_some.2 ⟨hx, rfl⟩, ?_⟩
          exact Option.map_eq_some_iff.2 ⟨_, ih.2 ⟨hxs, rfl⟩, rfl⟩

/-! ## Captures -/

/-- The first piece whose segment has a key, with the segment. -/
def firstFor (k : Str) (xs : List Segment) (ps : List Str) : Option (Segment × Str) :=
  (xs.zip ps).find? fun e => e.1.key = some k

/-- Looking a key up among the captures finds what is captured of the first piece for that key. -/
lemma lookup_allCaptures {xs : List Segment} {ps : List Str} (h : List.Forall₂ Segment.Takes xs ps)
    (k : Str) :
    ((xs.flatMap fun x => x.key.toList).zip (allCaptures xs ps)).lookup k =
      (firstFor k xs ps).map fun e => e.1.behind e.2 := by
  induction h with
  | nil => rfl
  | @cons x p xs ps hx hxs ih =>
    show ((x.key.toList ++ xs.flatMap fun x => x.key.toList).zip
      (x.captures p ++ allCaptures xs ps)).lookup k = _
    rw [firstFor, List.zip_cons_cons]
    cases hk : x.key with
    | none =>
      rw [Segment.captures, hk, List.find?_cons_of_neg (by simp [hk])]
      exact ih
    | some j =>
      rw [Segment.captures, hk]
      show ((j, x.behind p) :: (xs.flatMap fun x => x.key.toList).zip (allCaptures xs ps)).lookup k = _
      rw [List.lookup_cons]
      by_cases e : k = j
      · subst e
        rw [List.find?_cons_of_pos (by simp [hk])]
        simp
      · rw [beq_false_of_ne e, List.find?_cons_of_neg (by simpa [hk] using fun h => e h.symm)]
        exact ih

lemma Match.foldl_put_keys (m : Match) (l : List (Str × Str)) :
    (l.foldl put m).keys = m.keys + l.length := by
  induction l generalizing m with
  | nil => rfl
  | cons e l ih =>
    rw [List.foldl_cons, ih, List.length_cons, put]
    exact Nat.succ_add_eq_add_succ m.keys l.length

lemma Match.keys_ofCaptures {keys values : List Str} (h : values.length = keys.length) :
    (ofCaptures keys values).keys = keys.length := by
  rw [ofCaptures, foldl_put_keys, List.length_zip, h, Nat.min_self]
  exact Nat.zero_add _

/-! ## Templates -/

namespace Template

/-- The template matches a url: its segments take the pieces of the url one by one. -/
def Matches (t : Template) (u : Str) : Prop :=
  List.Forall₂ Segment.Takes t.segments (u.splitOn '/')

/-- What is captured for a key: the text behind the literal part in the first piece whose segment has
    that key. -/
def captured (t : Template) (u k : Str) : Str :=
  match firstFor k t.segments (u.splitOn '/') with
  | some e => e.1.behind e.2
  | none => []

/-- How many segments have a key. -/
def keyCount (t : Template) : Nat := t.segments.countP fun x => x.key.isSome

/-- The text of a template is that of its segments, joined by `/`. -/
lemma text_eq (t : Template) : t.text = ['/'].intercalate (t.segments.map Segment.text) := by
  obtain ⟨x, xs⟩ := t
  show x.text ++ slashed xs = ['/'].intercalate (x.text :: xs.map Segment.text)
  induction xs generalizing x with
  | nil => simp [slashed]
  | cons y ys ih =>
    rw [List.map_cons, List.intercalate_cons_cons, ← ih y]
    simp [slashed]

lemma length_keys_eq (t : Template) : t.keys.length = t.keyCount := by
  rw [keys, keyCount]
  induction t.segments with
  | nil => rfl
  | cons x xs ih =>
    rw [List.flatMap_cons, List.length_append, ih, List.countP_cons]
    cases x.key with
    | none => simp
    | some k => simp [Nat.add_comm]

end Template

/-! ## Histories -/

/-- What can have happened to a route and a match of it before: urls were set, for the match that is
    at hand or a new one, and templates of any kind were tested, also such that the test throws. -/
inductive History : Route → Match → Prop where
  | new (m : Match) : History {} m
  | set {route route' m m' u} :
    History route m →
    route.set u = .ok (route', m') →
    History route' m'
  | again {route route' m m' u} :
    History route m →
    route.set u = .ok (route', m') →
    History route' m
  | test {route m tmpl b m'} :
    History route m →
    Match.test route m tmpl = .ok (b, m') →
    History route m'
  | throws {route m tmpl x} (m' : Match) :
    History route m →
    Match.test route m tmpl = .error x →
    History route m'

/-- Nothing is ever put into the cache. -/
lemma History.cache {route : Route} {m : Match} (h : History route m) : route.cache = .empty := by
  have hset : ∀ {route route' : Route} {m' : Match} {u : Str}, route.cache = .empty →
      route.set u = .ok (route', m') → route'.cache = .empty := by
    intro route route' m' u hc hset
    rw [Route.set_eq] at hset
    cases hset
    exact hc
  induction h with
  | new m => rfl
  | set _ hs ih => exact hset ih hs
  | again _ hs ih => exact hset ih hs
  | test _ _ ih => exact ih
  | throws _ _ _ ih => exact ih

/-- The matcher of templates is the reading of a template piece by piece. After a url was set, on a
    route with any history, a test by any match never throws; it succeeds exactly if the segments take
    the pieces of the url one by one; then it has counted the segments with a key, and holds for every
    key what stands behind the literal part in the first piece for it; and if it fails, it holds
    nothing. -/
theorem test_segments {route : Route} {m : Match} (h : History route m) (t : Template) (u : Str) :
    ∃ route' m', route.set u = .ok (route', m') ∧ ∀ used : Match,
      ∃ b found, Match.test route' used (['/'].intercalate (t.segments.map Segment.text)) =
          .ok (b, found) ∧
        (b = true ↔ t.Matches u) ∧
        (b = true → found.keys = t.keyCount ∧ ∀ k, found.get k = t.captured u k) ∧
        (b = false → ∀ k, found.get k = []) := by
  refine ⟨_, _, Route.set_eq route u, fun used => ?_⟩
  have hcache : ({ route with url := u, path_to_regex := keyRegex } : Route).cache.find? t.text =
      none := by
    show route.cache.find? t.text = none
    rw [h.cache]
    rfl
  have htest : Match.test { route with url := u, path_to_regex := keyRegex } used t.text = _ :=
    t.test_eq rfl hcache used
  rw [t.text_eq] at htest
  cases hf : fits t.segments (u.splitOn '/') with
  | none =>
    rw [hf] at htest
    refine ⟨false, {}, htest, ?_, nofun, fun _ k => rfl⟩
    refine iff_of_false Bool.false_ne_true fun hm => ?_
    cases hf.symm.trans (fits_eq_some.2 ⟨hm, rfl⟩)
  | some cs =>
    rw [hf] at htest
    obtain ⟨hm, rfl⟩ := fits_eq_some.1 hf
    refine ⟨true, _, htest, iff_of_true rfl hm, fun _ => ⟨?_, fun k => ?_⟩, nofun⟩
    · rw [← t.length_keys_eq]
      apply Match.keys_ofCaptures
      rw [t.length_keys]
      exact fits_length hf
    · rw [Match.get_ofCaptures, Template.keys, lookup_allCaptures hm, Template.captured]
      cases firstFor k t.segments (u.splitOn '/') with
      | none => rfl
      | some e => rfl

lemma plain_id : ("id".toList.all fun c => c ∉ special ∧ c ≠ ':' ∧ c ≠ '/') = true := by decide

lemma plain_nil : ∀ c ∈ ([] : Str), c ∉ special ∧ c ≠ ':' ∧ c ≠ '/' := List.forall_mem_nil _

lemma slashless_none : ∀ k ∈ (none : Option Str), '/' ∉ k := fun k hk => absurd hk (Option.not_mem_none k)

lemma slashless {k : Str} (h : '/' ∉ k) : ∀ k' ∈ some k, '/' ∉ k' :=
  fun _ hk => Option.some.inj hk ▸ h

/-- A template with two keys of one name, a colon in the second one's segment, and an empty segment. -/
def Demo.twice : Template where
  first := ⟨[], none, plain_nil, slashless_none⟩
  rest := [
    ⟨"id".toList, some "n".toList, fun c hc => of_decide_eq_true (List.all_eq_true.1 plain_id c hc),
      slashless (by decide)⟩,
    ⟨[], some "n".toList, plain_nil, slashless (by decide)⟩,
    ⟨[], some "a:b".toList, plain_nil, slashless (by decide)⟩]

/-- On a match that was used before, the first capture of a key that occurs twice is the one that is
    held. -/
theorem test_segments_twice :
    ∃ route' m', Route.set {} "/id7/x/y".toList = .ok (route', m') ∧
      ∃ found, Match.test route' ⟨.empty, 5⟩ "/id:n/:n/:a:b".toList = .ok (true, found) ∧
        found.keys = 3 ∧ found.get "n".toList = "7".toList := by
  obtain ⟨route', m', hset, h⟩ :=
    test_segments (.new ⟨.empty, 5⟩) Demo.twice "/id7/x/y".toList
  obtain ⟨b, found, htest, hb, htrue, -⟩ := h ⟨.empty, 5⟩
  have hm : Demo.twice.Matches "/id7/x/y".toList := by
    refine .cons rfl (.cons ⟨'7', [], rfl⟩ (.cons ⟨'x', [], rfl⟩ (.cons ⟨'y', [], rfl⟩ .nil)))
  obtain rfl := hb.2 hm
  obtain ⟨hkeys, hget⟩ := htrue rfl
  exact ⟨route', m', hset, found, htest, hkeys, hget _⟩

end SampApi

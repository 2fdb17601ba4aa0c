import SampApi.Answers
import SampApi.Demo

/-!
# Dispatch

Which function answers which target. Every registered path is the text of a template
(`RouteFunction.template`), no url fits two of these templates (`captures_unique`), and so the loop
over the routes runs the one function whose template fits, whatever the order of the routes is
(`dispatch_run`). `handleRequest_run` says what the handler does with a request, with one lemma for each
of the ways in which that ends (`handleRequest_unauthorised`, `handleRequest_unmatched`,
`handleRequest_matched`), and `dispatch_unambiguous` puts the facts about dispatch together.
-/

namespace SampApi
open Lib Lib.Regex

variable {W : Type}

/-! ## The templates of the routes -/

/-- No character of the text has a meaning in a template or in a regular expression. -/
def plain (s : String) : Bool := s.toList.all fun c => c ∉ special ∧ c ≠ ':' ∧ c ≠ '/'

/-- A segment without key. -/
def word (s : String) (h : plain s = true) : Segment :=
  ⟨s.toList, none, by simpa [plain] using h, by simp⟩

/-- A segment that is a key only. -/
def keyed (s : String) (h : '/' ∉ s.toList) : Segment :=
  ⟨[], some s.toList, by simp, by simpa using h⟩

namespace RouteFunction

/-- The first segment of all paths, the empty text before the first `/`. -/
def root : Segment := word "" (by decide)

/-- The template of the path that a function is registered for. -/
def template : RouteFunction → Template
  | playerList => ⟨root, [word "player" (by decide), word "list" (by decide)]⟩
  | playerKick =>
    ⟨root, [word "player" (by decide), word "kick" (by decide), keyed "name" (by decide)]⟩
  | playerBan =>
    ⟨root, [word "player" (by decide), word "ban" (by decide), keyed "name" (by decide)]⟩
  | miscSay => ⟨root, [word "misc" (by decide), word "say" (by decide)]⟩
  | miscEcho => ⟨root, [word "misc" (by decide), word "echo" (by decide)]⟩
  | miscIpban => ⟨root, [word "misc" (by decide), word "ip" (by decide), word "ban" (by decide)]⟩
  | miscIpunban => ⟨root, [word "misc" (by decide), word "ip" (by decide), word "unban" (by decide)]⟩
  | settingsGamemodetext => ⟨root, [word "settings" (by decide), word "gamemodetext" (by decide)]⟩
  | settingsGravity => ⟨root, [word "settings" (by decide), word "gravity" (by decide)]⟩
  | settingsWeather => ⟨root, [word "settings" (by decide), word "weather" (by decide)]⟩
  | settingsList => ⟨root, [word "settings" (by decide), word "list" (by decide)]⟩

/-- All functions, in the order of their paths. -/
def all : List RouteFunction :=
  [miscEcho, miscIpban, miscIpunban, miscSay, playerBan, playerKick, playerList,
    settingsGamemodetext, settingsGravity, settingsList, settingsWeather]

lemma mem_all (f : RouteFunction) : f ∈ all := by
  cases f <;> decide

/-- The route of a function. -/
def entry (f : RouteFunction) : Str × RouteFunction := (f.template.text, f)

/-- The match of a url against the template of a function, if it fits. -/
def captures (f : RouteFunction) (u : Str) : Option Match :=
  (fits f.template.segments (u.splitOn '/')).map (Match.ofCaptures f.template.keys)

end RouteFunction

open RouteFunction

/-- The table that `RegisterFunctions` fills. -/
lemma registerFunctions_entries :
    (Handler.registerFunctions {}).routes.entries = all.map entry := by
  decide +kernel

/-! ## No url fits two of them -/

/-- Two lists of segments that no url fits both: they differ in length, or in a literal segment. -/
def clash : List Segment → List Segment → Bool
  | [], [] => false
  | x :: xs, y :: ys =>
    (x.key.isNone && y.key.isNone && decide (x.lit ≠ y.lit)) || clash xs ys
  | _, _ => true

lemma Segment.fit_word {x : Segment} {p : Str} {c : List Str} (hk : x.key = none)
    (h : x.fit p = some c) : p = x.lit := by
  rw [fit, hk] at h
  by_contra hne
  simp [hne] at h

lemma fits_clash {xs ys : List Segment} {ps cs ds : List Str} (h : clash xs ys = true)
    (hx : fits xs ps = some cs) (hy : fits ys ps = some ds) : False := by
  induction xs generalizing ys ps cs ds with
  | nil =>
    cases ys with
    | nil => cases h
    | cons y ys =>
      cases ps with
      | nil => cases hy
      | cons p ps => cases hx
  | cons x xs ih =>
    cases ys with
    | nil =>
      cases ps with
      | nil => cases hx
      | cons p ps => cases hy
    | cons y ys =>
      cases ps with
      | nil => cases hx
      | cons p ps =>
        simp only [fits, Option.bind_eq_some_iff, Option.map_eq_some_iff] at hx hy
        obtain ⟨c, hc, cs', hcs, -⟩ := hx
        obtain ⟨d, hd, ds', hds, -⟩ := hy
        rw [clash, Bool.or_eq_true] at h
        rcases h with h | h
        · -- both segments are literal, so the piece equals two different literals
          simp only [Bool.and_eq_true, Option.isNone_iff_eq_none, decide_eq_true_eq] at h
          obtain ⟨⟨hkx, hky⟩, hne⟩ := h
          exact hne ((Segment.fit_word hkx hc).symm.trans (Segment.fit_word hky hd))
        · exact ih h hcs hds

lemma templates_clash :
    ∀ f ∈ all, ∀ g ∈ all, f ≠ g → clash f.template.segments g.template.segments = true := by
  decide +kernel

/-- A url fits the template of one function at most. -/
theorem captures_unique {f g : RouteFunction} {u : Str} {m m' : Match}
    (hf : f.captures u = some m) (hg : g.captures u = some m') : f = g := by
  by_contra hne
  obtain ⟨cs, hcs, -⟩ := Option.map_eq_some_iff.1 hf
  obtain ⟨ds, hds, -⟩ := Option.map_eq_some_iff.1 hg
  exact fits_clash (templates_clash f (mem_all f) g (mem_all g) hne) hcs hds

/-- The function for a url, with the match it gets. -/
def chosen (u : Str) : Option (RouteFunction × Match) :=
  all.findSome? fun f => (f.captures u).map fun m => (f, m)

/-- Searched in any order, the functions yield the one that fits. -/
lemma findSome?_captures {fs : List RouteFunction} {u : Str} {f : RouteFunction} {m : Match}
    (hf : f ∈ fs) (h : f.captures u = some m) :
    (fs.findSome? fun g => (g.captures u).map fun m => (g, m)) = some (f, m) := by
  induction fs with
  | nil => cases hf
  | cons g fs ih =>
    rw [List.findSome?_cons]
    cases hg : g.captures u with
    | some m' =>
      cases captures_unique h hg
      cases h.symm.trans hg
      rfl
    | none =>
      rcases List.mem_cons.1 hf with rfl | hf
      · cases h.symm.trans hg
      · exact ih hf

lemma findSome?_captures_none {fs : List RouteFunction} {u : Str}
    (h : ∀ f : RouteFunction, f.captures u = none) :
    (fs.findSome? fun g => (g.captures u).map fun m => (g, m)) = none := by
  rw [List.findSome?_eq_none_iff]
  intro f _
  rw [h f]
  rfl

/-- The order of the functions does not matter to the search. -/
lemma findSome?_perm {fs : List RouteFunction} (hp : fs.Perm all) (u : Str) :
    (fs.findSome? fun g => (g.captures u).map fun m => (g, m)) = chosen u := by
  by_cases h : ∀ f : RouteFunction, f.captures u = none
  · rw [findSome?_captures_none h, chosen, findSome?_captures_none h]
  · obtain ⟨f, hf⟩ := not_forall.1 h
    obtain ⟨m, hm⟩ := Option.ne_none_iff_exists'.1 hf
    rw [findSome?_captures (hp.mem_iff.2 (mem_all f)) hm, chosen,
      findSome?_captures (mem_all f) hm]

lemma chosen_eq_some {u : Str} {f : RouteFunction} {m : Match} :
    chosen u = some (f, m) ↔ f.captures u = some m := by
  constructor
  · intro h
    obtain ⟨g, -, hg⟩ := List.exists_of_findSome?_eq_some h
    obtain ⟨m', hm', he⟩ := Option.map_eq_some_iff.1 hg
    cases he
    exact hm'
  · exact findSome?_captures (mem_all f)

lemma chosen_eq_none {u : Str} : chosen u = none ↔ ∀ f : RouteFunction, f.captures u = none := by
  constructor
  · intro h f
    cases hf : f.captures u with
    | none => rfl
    | some m => cases h.symm.trans (chosen_eq_some.2 hf)
  · exact findSome?_captures_none

/-! ## Routes with a name -/

/-- A literal segment takes the url up to its first `/`. -/
lemma fits_word_cons {x y : Segment} {ys : List Segment} {u : Str} {cs : List Str}
    (hk : x.key = none) :
    fits (x :: y :: ys) (u.splitOn '/') = some cs ↔
      ∃ r, u = x.lit ++ '/' :: r ∧ fits (y :: ys) (r.splitOn '/') = some cs := by
  have hlit : '/' ∉ x.lit := fun h => (x.lit_plain '/' h).2.2 rfl
  constructor
  · intro h
    rcases splitOn_cases u with ⟨-, hu⟩ | ⟨p, r, rfl, -, hu⟩
    · rw [hu, fits, Option.bind_eq_some_iff] at h
      obtain ⟨c, -, h⟩ := h
      cases h
    · rw [hu, fits, Option.bind_eq_some_iff] at h
      obtain ⟨c, hc, h⟩ := h
      obtain ⟨ds, hds, rfl⟩ := Option.map_eq_some_iff.1 h
      obtain rfl := Segment.fit_word hk hc
      have hc' : x.fit x.lit = some [] := by simp [Segment.fit, hk]
      cases hc.symm.trans hc'
      exact ⟨r, rfl, hds⟩
  · intro h
    obtain ⟨r, rfl, h⟩ := h
    rw [List.splitOn_append_cons_self_of_not_mem hlit r, fits]
    simp [Segment.fit, hk, h]

/-- A segment that is a key takes a last piece that is not empty. -/
lemma fits_keyed {x : Segment} {k u : Str} {cs : List Str} (hl : x.lit = []) (hk : x.key = some k) :
    fits [x] (u.splitOn '/') = some cs ↔ u ≠ [] ∧ '/' ∉ u ∧ cs = [u] := by
  rcases splitOn_cases u with ⟨hu, hs⟩ | ⟨p, r, rfl, -, hs⟩
  · rw [hs]
    by_cases h : u = []
    · simp [fits, Segment.fit, hk, hl, h]
    · simp [fits, Segment.fit, hk, hl, h, hu, eq_comm]
  · have hne := List.splitOn_ne_nil '/' r
    rw [hs]
    cases hr : r.splitOn '/' with
    | nil => exact absurd hr hne
    | cons q qs => simp [fits]

/-- The urls of a route that ends in a name. -/
lemma fits_named {x : Segment} {action : String} {k u : Str} {cs : List Str}
    (ha : plain action = true) (hl : x.lit = []) (hk : x.key = some k) :
    fits [root, word "player" (by decide), word action ha, x] (u.splitOn '/') = some cs ↔
      ∃ n, n ≠ [] ∧ '/' ∉ n ∧ u = "/player/".toList ++ action.toList ++ '/' :: n ∧ cs = [n] := by
  rw [fits_word_cons rfl]
  constructor
  · intro h
    obtain ⟨r, hr, h⟩ := h
    obtain ⟨r', hr', h'⟩ := (fits_word_cons rfl).1 h
    obtain ⟨n, hn, h''⟩ := (fits_word_cons rfl).1 h'
    obtain ⟨h1, h2, h3⟩ := (fits_keyed hl hk).1 h''
    exact ⟨n, h1, h2, by simp [hr, hr', hn, root, word], h3⟩
  · intro h
    obtain ⟨n, h1, h2, rfl, h3⟩ := h
    refine ⟨"player/".toList ++ action.toList ++ '/' :: n, by simp [root, word], ?_⟩
    refine (fits_word_cons rfl).2 ⟨action.toList ++ '/' :: n, by simp [word], ?_⟩
    refine (fits_word_cons rfl).2 ⟨n, rfl, ?_⟩
    exact (fits_keyed hl hk).2 ⟨h1, h2, h3⟩

/-- The targets of a function that is registered for an action on a name, with what is captured. -/
lemma named_captures {f : RouteFunction} {action : String} {u : Str} {m : Match}
    {ha : plain action = true}
    (hf : f.template =
      ⟨root, [word "player" (by decide), word action ha, keyed "name" (by decide)]⟩) :
    f.captures u = some m ↔
      ∃ n, n ≠ [] ∧ '/' ∉ n ∧ u = "/player/".toList ++ action.toList ++ '/' :: n ∧
        m = Match.ofCaptures ["name".toList] [n] := by
  rw [captures, hf, Option.map_eq_some_iff]
  constructor
  · intro h
    obtain ⟨cs, hcs, rfl⟩ := h
    obtain ⟨n, h1, h2, hu, rfl⟩ := (fits_named ha rfl rfl).1 hcs
    exact ⟨n, h1, h2, hu, rfl⟩
  · intro h
    obtain ⟨n, h1, h2, hu, rfl⟩ := h
    exact ⟨[n], (fits_named ha rfl rfl).2 ⟨n, h1, h2, hu, rfl⟩, rfl⟩

/-- The targets that kick a player. -/
lemma playerKick_captures {u : Str} {m : Match} :
    playerKick.captures u = some m ↔
      ∃ n, n ≠ [] ∧ '/' ∉ n ∧ u = "/player/kick/".toList ++ n ∧
        m = Match.ofCaptures ["name".toList] [n] :=
  @named_captures playerKick "kick" u m (by decide) rfl

/-- The targets that ban a player. -/
lemma playerBan_captures {u : Str} {m : Match} :
    playerBan.captures u = some m ↔
      ∃ n, n ≠ [] ∧ '/' ∉ n ∧ u = "/player/ban/".toList ++ n ∧
        m = Match.ofCaptures ["name".toList] [n] :=
  @named_captures playerBan "ban" u m (by decide) rfl

/-- The name that these routes get. -/
lemma get_name (n : Str) : (Match.ofCaptures ["name".toList] [n]).get "name".toList = n := by
  rw [Match.get_ofCaptures]
  rfl

/-! ## The loop over the routes -/

/-- The route table is the one that `RegisterFunctions` fills, and the cache of the route, which no
    function fills, is empty. -/
structure Handler.Registered (h : Handler) : Prop where
  routes : h.routes = (Handler.registerFunctions {}).routes
  cache : h.route.cache = .empty

/-- The handler is set up, and the url of its route is `u`. -/
structure Handler.Set (h : Handler) (u : Str) : Prop extends h.Registered where
  path_to_regex : h.route.path_to_regex = keyRegex
  url : h.route.url = u

lemma Handler.Registered.entries {h : Handler} (hh : h.Registered) :
    h.routes.entries = all.map entry := by
  rw [hh.routes, registerFunctions_entries]

/-- Every function is in the table. -/
lemma Handler.Registered.entry_mem {h : Handler} (hh : h.Registered) (f : RouteFunction) :
    f.entry ∈ h.routes.entries := by
  rw [hh.entries]
  exact List.mem_map_of_mem (mem_all f)

/-- A function is in the table under its own template only. -/
lemma Handler.Registered.eq_entry {h : Handler} (hh : h.Registered) {tmpl : Str} {f : RouteFunction}
    (hf : (tmpl, f) ∈ h.routes.entries) : tmpl = f.entry.1 := by
  rw [hh.entries] at hf
  obtain ⟨g, -, hg⟩ := List.mem_map.1 hf
  obtain ⟨rfl, rfl⟩ := Prod.mk.inj hg
  rfl

lemma Handler.Registered.withUrl {s : Plugin W} (hs : s.handler.Registered) (u : Str) :
    (s.withUrl u).handler.Set u := ⟨⟨hs.routes, hs.cache⟩, rfl, rfl⟩

/-- Testing the template of a function computes its captures, whatever was tested before. -/
lemma test_entry {h : Handler} {u : Str} (hh : h.Set u) (f : RouteFunction) (m : Match) :
    m.test h.route f.entry.1 =
      .ok (match f.captures u with
        | none => (false, {})
        | some found => (true, found)) := by
  have hc : h.route.cache.find? f.template.text = none := by
    rw [hh.cache]
    rfl
  have ht := Template.test_eq f.template hh.path_to_regex hc m
  rw [hh.url] at ht
  rw [entry, ht, captures]
  cases fits f.template.segments (u.splitOn '/') <;> rfl

/-- The loop over some routes runs the first function that fits, or answers that the route is
    invalid. -/
lemma dispatch_run (env : Env W) (req : Request) (response : Response) (p : Int)
    (fs : List RouteFunction) (m : Match) {s : Plugin W} {u : Str} (hs : s.handler.Set u) :
    Handler.dispatch env req response p (fs.map entry) m s =
      match fs.findSome? fun f => (f.captures u).map fun m => (f, m) with
      | some (f, found) => f.handleRequest env req { response with result := 200 } found p s
      | none => Handler.showError env req response 404 "Invalid route" p s := by
  induction fs generalizing m with
  | nil => rfl
  | cons f fs ih =>
    rw [List.map_cons, Handler.dispatch, Prog.gets_bind_run, test_entry hs, List.findSome?_cons]
    cases f.captures u with
    | none => exact ih {}
    | some found => rfl

/-! ## The handler -/

/-- The plugin after the authorisation of a request. -/
def Plugin.checked (env : Env W) (s : Plugin W) (req : Request) (remote : Str) : Plugin W :=
  { s.withUrl req.target with
    log := s.log ++ Handler.warnings env s.sampConfig s.handler req remote }

/-- The handler tries the routes for an authorised request only. -/
lemma handleRequest_decides (env : Env W) (req : Request) (response : Response) (remote : Str)
    (p : Int) (s : Plugin W) :
    Handler.handleRequest env req response remote p s =
      if Handler.authorized env s.sampConfig s.handler req remote then
        Handler.dispatch env req response p (s.checked env req remote).handler.routes.entries {}
          (s.checked env req remote)
      else
        Handler.showError env req response 401 "Unauthorized" p (s.checked env req remote) := by
  rw [Handler.handleRequest, Prog.bind_ok (Handler.setRoute_run ..),
    Prog.bind_ok (Handler.authorize_run ..)]
  show (if (!Handler.authorized env s.sampConfig s.handler req remote) = true then _ else _ :
    Act W Response) (s.checked env req remote) = _
  cases Handler.authorized env s.sampConfig s.handler req remote with
  | false => rfl
  | true => rfl

/-- What the handler does with a request. -/
theorem handleRequest_run (env : Env W) (req : Request) (response : Response) (remote : Str)
    (p : Int) {s : Plugin W} (hs : s.handler.Registered) :
    Handler.handleRequest env req response remote p s =
      if Handler.authorized env s.sampConfig s.handler req remote then
        match chosen req.target with
        | some (f, m) =>
          f.handleRequest env req { response with result := 200 } m p (s.checked env req remote)
        | none =>
          Handler.showError env req response 404 "Invalid route" p (s.checked env req remote)
      else
        Handler.showError env req response 401 "Unauthorized" p (s.checked env req remote) := by
  have hset : (s.checked env req remote).handler.Set req.target := ⟨⟨hs.routes, hs.cache⟩, rfl, rfl⟩
  rw [handleRequest_decides, hset.entries, dispatch_run env req response p all {} hset]
  rfl

/-- A request that is not authorised is answered with 401. -/
theorem handleRequest_unauthorised (env : Env W) (req : Request) (response : Response) (remote : Str)
    (p : Int) {s : Plugin W}
    (ha : Handler.authorized env s.sampConfig s.handler req remote = false) :
    Handler.handleRequest env req response remote p s =
      (.ok (Handler.errorResponse env response 401 "Unauthorized"
          ((s.checked env req remote).elapsed env p)),
        ((s.checked env req remote).withUrl req.target).tick) := by
  have hcode : (401 : UInt32).toNat ≤ 999 := Nat.le_of_ble_eq_true rfl
  rw [handleRequest_decides, ha]
  exact Handler.showError_run env req response "Unauthorized" p _ hcode

/-- An authorised request that no route matches is answered with 404. -/
theorem handleRequest_unmatched (env : Env W) (req : Request) (response : Response) (remote : Str)
    (p : Int) {s : Plugin W} (hs : s.handler.Registered)
    (ha : Handler.authorized env s.sampConfig s.handler req remote = true)
    (hc : chosen req.target = none) :
    Handler.handleRequest env req response remote p s =
      (.ok (Handler.errorResponse env response 404 "Invalid route"
          ((s.checked env req remote).elapsed env p)),
        ((s.checked env req remote).withUrl req.target).tick) := by
  have hcode : (404 : UInt32).toNat ≤ 999 := Nat.le_of_ble_eq_true rfl
  rw [handleRequest_run env req response remote p hs, if_pos ha, hc]
  exact Handler.showError_run env req response "Invalid route" p _ hcode

/-- An authorised request that a route matches is answered with the message that is made of the end of
    its function. -/
theorem handleRequest_matched (env : Env W) (req : Request) (response : Response) (remote : Str)
    (p : Int) {s : Plugin W} (hs : s.handler.Registered)
    (ha : Handler.authorized env s.sampConfig s.handler req remote = true) {f : RouteFunction}
    {m : Match} (hc : chosen req.target = some (f, m)) :
    Handler.handleRequest env req response remote p s =
      (.ok (Response.carrying env { response with result := 200 }
          (message (f.outcome env req m (s.checked env req remote)).2.2
            (f.outcome env req m (s.checked env req remote)).1)
          ((f.ended env req m (s.checked env req remote)).elapsed env p)),
        (f.ended env req m (s.checked env req remote)).tick) := by
  rw [handleRequest_run env req response remote p hs, if_pos ha, hc]
  exact f.handleRequest_run env req { response with result := 200 } m p _

/-- The functions that a request runs. -/
theorem handleRequest_handled (env : Env W) (req : Request) (response : Response) (remote : Str)
    (p : Int) {s : Plugin W} (hs : s.handler.Registered)
    (ha : Handler.authorized env s.sampConfig s.handler req remote = true) :
    (Handler.handleRequest env req response remote p s).2.handled =
      match chosen req.target with
      | some (f, m) =>
        s.handled ++ [⟨f, m, (f.outcome env req m (s.checked env req remote)).1⟩]
      | none => s.handled := by
  cases hc : chosen req.target with
  | none =>
    rw [handleRequest_unmatched env req response remote p hs ha hc]
    rfl
  | some fm =>
    rw [handleRequest_matched env req response remote p hs ha hc]
    exact RouteFunction.ended_handled ..

/-! ## Dispatch -/

namespace Handler

/-- Tested after the url was set, the template matches, with the captures `found`. -/
def Matches (h : Handler) (u tmpl : Str) (found : Match) : Prop :=
  ∃ route m, h.route.set u = .ok (route, m) ∧ m.test route tmpl = .ok (true, found)

/-- The request runs the function `f`, once, with the match `found`, and no other function: the record has
    one more entry, with the end of this run. -/
def Runs (env : Env W) (req : Request) (response : Response) (remote : Str) (p : Int)
    (s : Plugin W) (f : RouteFunction) (found : Match) : Prop :=
  (handleRequest env req response remote p s).2.handled =
    s.handled ++ [⟨f, found, (f.outcome env req found (s.checked env req remote)).1⟩]

lemma runs_iff {env : Env W} {req : Request} {response : Response} {remote : Str} {p : Int}
    {s : Plugin W} (hs : s.handler.Registered)
    (ha : authorized env s.sampConfig s.handler req remote = true) {f : RouteFunction}
    {found : Match} :
    Runs env req response remote p s f found ↔ f.captures req.target = some found := by
  have hh := handleRequest_handled env req response remote p hs ha
  rw [Runs, hh, ← chosen_eq_some]
  cases chosen req.target with
  | none => simp
  | some fm =>
    constructor
    · intro h
      obtain ⟨hinv, -⟩ := List.cons.inj (List.append_cancel_left h)
      obtain ⟨hf, hm, -⟩ := Invocation.mk.inj hinv
      rw [← hf, ← hm]
    · intro h
      cases h
      rfl

lemma matches_iff {s : Plugin W} (hs : s.handler.Registered) {u : Str} {f : RouteFunction}
    {found : Match} : Matches s.handler u f.entry.1 found ↔ f.captures u = some found := by
  have hset := hs.withUrl u
  have ht := test_entry hset f {}
  constructor
  · intro h
    obtain ⟨route, m, hr, hm⟩ := h
    rw [Route.set_eq] at hr
    cases hr
    have h := ht.symm.trans hm
    cases hf : f.captures u with
    | none =>
      rw [hf] at h
      cases h
    | some m' =>
      rw [hf] at h
      cases h
      rfl
  · intro h
    rw [h] at ht
    exact ⟨_, {}, Route.set_eq .., ht⟩

/-- Tests of two entries that both match are tests of one entry. -/
lemma entries_unique {s : Plugin W} (hs : s.handler.Registered) {u : Str} {route : Route}
    {m : Match} (hr : s.handler.route.set u = .ok (route, m)) {f g : RouteFunction}
    {m₁ m₂ found found' : Match} (hf : m₁.test route f.entry.1 = .ok (true, found))
    (hg : m₂.test route g.entry.1 = .ok (true, found')) : f = g := by
  have hset := hs.withUrl u
  have captures_of_test : ∀ {h : RouteFunction} {n found : Match},
      n.test route h.entry.1 = .ok (true, found) → ∃ m, h.captures u = some m := by
    intro h n found ht
    rw [Route.set_eq] at hr
    cases hr
    have ht' := (test_entry hset h n).symm.trans ht
    cases hc : h.captures u with
    | none =>
      rw [hc] at ht'
      cases ht'
    | some m' => exact ⟨m', rfl⟩
  obtain ⟨_, hf⟩ := captures_of_test hf
  obtain ⟨_, hg⟩ := captures_of_test hg
  exact captures_unique hf hg

/-- A table with the same entries is the table of the functions in some order. -/
lemma perm_entries {routes : List (Str × RouteFunction)} (h : routes.Perm (all.map entry)) :
    ∃ fs : List RouteFunction, fs.Perm all ∧ routes = fs.map entry := by
  refine ⟨routes.map Prod.snd, ?_, ?_⟩
  · have hp := h.map Prod.snd
    rwa [List.map_map, show (Prod.snd ∘ entry) = id from rfl, List.map_id] at hp
  · rw [List.map_map]
    refine (List.map_id routes).symm.trans (List.map_congr_left fun e he => ?_)
    obtain ⟨f, -, rfl⟩ := List.mem_map.1 (h.mem_iff.1 he)
    rfl

/-- The loop does the same for every order of the table. -/
lemma dispatch_perm (env : Env W) (req : Request) (response : Response) (p : Int) {s : Plugin W}
    {u : Str} (hs : s.handler.Set u) {routes : List (Str × RouteFunction)}
    (h : routes.Perm s.handler.routes.entries) (m : Match) :
    dispatch env req response p routes m s =
      dispatch env req response p s.handler.routes.entries m s := by
  rw [hs.entries] at h ⊢
  obtain ⟨fs, hfs, rfl⟩ := perm_entries h
  rw [dispatch_run env req response p fs m hs, dispatch_run env req response p all m hs,
    findSome?_perm hfs]
  rfl

/-- A request that no route matches is answered with 404. -/
lemma handleRequest_invalid {env : Env W} {req : Request} (response : Response) {remote : Str}
    (p : Int) {s : Plugin W} (hs : s.handler.Registered)
    (ha : authorized env s.sampConfig s.handler req remote = true)
    (hn : ∀ f : RouteFunction, f.captures req.target = none) :
    (handleRequest env req response remote p s).2.handled = s.handled ∧
      ∃ r, (handleRequest env req response remote p s).1 = .ok r ∧ r.result = 404 := by
  have hc := chosen_eq_none.2 hn
  refine ⟨by rw [handleRequest_handled env req response remote p hs ha, hc], ?_⟩
  rw [handleRequest_unmatched env req response remote p hs ha hc]
  exact ⟨_, rfl, rfl⟩

/-- A request runs a function that is registered for an action on a name exactly if its target is that
    action on a name, which the function gets. -/
lemma runs_named {env : Env W} {req : Request} {response : Response} {remote : Str} {p : Int}
    {s : Plugin W} (hs : s.handler.Registered)
    (ha : authorized env s.sampConfig s.handler req remote = true) {f : RouteFunction} {url : Str}
    (hf : ∀ m, f.captures req.target = some m ↔ ∃ n, n ≠ [] ∧ '/' ∉ n ∧ req.target = url ++ n ∧
      m = Match.ofCaptures ["name".toList] [n]) :
    (∀ found, Runs env req response remote p s f found →
      ∃ n, n ≠ [] ∧ '/' ∉ n ∧ req.target = url ++ n ∧ found.get "name".toList = n) ∧
    ∀ n, n ≠ [] → '/' ∉ n → req.target = url ++ n →
      ∃ found, Runs env req response remote p s f found ∧ found.get "name".toList = n := by
  constructor
  · intro found h
    obtain ⟨n, h1, h2, h3, rfl⟩ := (hf found).1 ((runs_iff hs ha).1 h)
    exact ⟨n, h1, h2, h3, get_name n⟩
  · intro n h1 h2 h3
    exact ⟨_, (runs_iff hs ha).2 ((hf _).2 ⟨n, h1, h2, h3, rfl⟩), get_name n⟩

end Handler

open Handler in
/-- Dispatch is unambiguous and complete. For every target one template of the table matches at most,
    whatever was tested before, and the loop does the same for every order of the table. An authorised
    request runs the function of the template that matches, once and with the captures of a fresh
    match; if there is none it runs no function and is answered with 404. It kicks or bans the player
    `n` exactly if the target says so. -/
theorem dispatch_unambiguous (env : Env W) (req : Request) (response : Response) (remote : Str)
    (p : Int) (s : Plugin W) (hs : s.handler.Registered) :
    let routes := s.handler.routes.entries
    let s₁ := (authorize env req remote (setRoute req.target s).2).2
    let authorised := (authorize env req remote (setRoute req.target s).2).1 = .ok true
    (∀ route m, s.handler.route.set req.target = .ok (route, m) →
      ∀ e ∈ routes, ∀ e' ∈ routes, ∀ m₁ m₂ found found', Match.test route m₁ e.1 = .ok (true, found) →
        Match.test route m₂ e'.1 = .ok (true, found') → e = e') ∧
    (∀ routes', routes'.Perm routes → ∀ m,
      dispatch env req response p routes' m s₁ = dispatch env req response p routes m s₁) ∧
    (authorised → ∀ e ∈ routes, ∀ found, Matches s.handler req.target e.1 found →
      handleRequest env req response remote p s =
        e.2.handleRequest env req { response with result := 200 } found p s₁ ∧
      Runs env req response remote p s e.2 found) ∧
    (authorised → (∀ e ∈ routes, ∀ found, ¬ Matches s.handler req.target e.1 found) →
      (handleRequest env req response remote p s).2.handled = s.handled ∧
      ∃ r, (handleRequest env req response remote p s).1 = .ok r ∧ r.result = 404) ∧
    (authorised → ∀ f url, (f = .playerKick ∧ url = "/player/kick/".toList) ∨
        (f = .playerBan ∧ url = "/player/ban/".toList) →
      (∀ found, Runs env req response remote p s f found →
        ∃ n, n ≠ [] ∧ '/' ∉ n ∧ req.target = url ++ n ∧ found.get "name".toList = n) ∧
      (∀ n, n ≠ [] → '/' ∉ n → req.target = url ++ n →
        ∃ found, Runs env req response remote p s f found ∧ found.get "name".toList = n)) := by
  intro routes s₁ authorised
  have hs₁ : s₁ = s.checked env req remote := by
    show (authorize env req remote (setRoute req.target s).2).2 = _
    rw [setRoute_run, authorize_run]
    rfl
  have hset : s₁.handler.Set req.target := hs₁ ▸ ⟨⟨hs.routes, hs.cache⟩, rfl, rfl⟩
  have hauth : authorised → authorized env s.sampConfig s.handler req remote = true := by
    intro h
    have h' : (authorize env req remote (setRoute req.target s).2).1 = .ok true := h
    rw [setRoute_run, authorize_run] at h'
    exact Except.ok.inj h'
  have hroutes : routes = all.map entry := hs.entries
  have hmem : ∀ e ∈ routes, ∃ f : RouteFunction, f.entry = e := by
    intro e he
    obtain ⟨f, -, hf⟩ := List.mem_map.1 (hroutes ▸ he)
    exact ⟨f, hf⟩
  refine ⟨?_, ?_, ?_, ?_, ?_⟩
  · intro route m hr e he e' he' m₁ m₂ found found' ht ht'
    obtain ⟨f, rfl⟩ := hmem e he
    obtain ⟨g, rfl⟩ := hmem e' he'
    rw [entries_unique hs hr ht ht']
  · intro routes' hp m
    have hsame : s₁.handler.routes.entries = routes := by
      rw [hs₁]
      rfl
    rw [← hsame] at hp ⊢
    exact dispatch_perm env req response p hset hp m
  · intro ha e he found hm
    obtain ⟨f, rfl⟩ := hmem e he
    have hc := (matches_iff hs).1 hm
    refine ⟨?_, (runs_iff hs (hauth ha)).2 hc⟩
    rw [handleRequest_run env req response remote p hs, if_pos (hauth ha), chosen_eq_some.2 hc, hs₁]
    rfl
  · intro ha hn
    refine handleRequest_invalid response p hs (hauth ha) fun f => ?_
    by_contra hf
    obtain ⟨m, hm⟩ := Option.ne_none_iff_exists'.1 hf
    exact hn f.entry (hs.entry_mem f) m ((matches_iff hs).2 hm)
  · intro ha f url hf
    rcases hf with ⟨rfl, rfl⟩ | ⟨rfl, rfl⟩
    · exact runs_named hs (hauth ha) fun m => playerKick_captures
    · exact runs_named hs (hauth ha) fun m => playerBan_captures

/-- The request to kick `bob` runs the function for that. -/
theorem dispatch_unambiguous_kickBob :
    ∃ found, Handler.Runs Demo.env Demo.kickBob {} Demo.remote 0 (Demo.plugin {}) .playerKick found ∧
      found.get "name".toList = "bob".toList := by
  have h := (dispatch_unambiguous Demo.env Demo.kickBob {} Demo.remote 0 (Demo.plugin {})
    ⟨rfl, rfl⟩).2.2.2.2 (by rfl) .playerKick "/player/kick/".toList (.inl ⟨rfl, rfl⟩)
  exact h.2 "bob".toList (by decide) (by decide) rfl

end SampApi

import SampApi.Demo
import SampApi.Registry

/-!
# Who a name is

`player::list` shows the name that the game has for a player now, while `PlayerManager::Kick` and
`PlayerManager::Ban` look for the name that was recorded when the player connected. Both agree on who
a name is exactly if every recorded name is still the current one (`agree_iff`), and so a run keeps
them in agreement exactly if the game renames no connected player in it (`list_agrees_iff`).
-/

namespace SampApi
open Lib Prog

variable {W : Type}

/-! ## Names -/

/-- The name that the game has for a player, as the plugin reads it. -/
def liveName (env : Env W) (w : W) (id : UInt32) : Str :=
  stored MAX_PLAYER_NAME (env.game (.GetPlayerName id MAX_PLAYER_NAME) w).1

/-- The natives that the plugin calls rename no player who is still there when they return. -/
def Env.KeepsNames (env : Env W) : Prop :=
  ∀ n w id, id ∉ n.left (env.game n w).1 → liveName env (env.game n w).2 id = liveName env w id

/-- The rows that a list request is answered with. -/
def listedRows (env : Env W) (req : Request) (found : Match) (s : Plugin W) : List PlayerData :=
  let message : PlayerMessage := (RouteFunction.playerList.outcome env req found s).2.2
  message.players

/-- `Kick` and `Ban` with the name call their native for the player with the id, and nothing else. -/
def Targets (env : Env W) (s : Plugin W) (name : Str) (id : UInt32) : Prop :=
  (∃ r, (PlayerManager.kick env name s).2.calls = s.calls ++ [⟨.Kick id, r⟩]) ∧
  (∃ r, (PlayerManager.ban env name s).2.calls = s.calls ++ [⟨.Ban id, r⟩])

/-- `Kick` and `Ban` with the name call no native. -/
def TargetsNobody (env : Env W) (s : Plugin W) (name : Str) : Prop :=
  (PlayerManager.kick env name s).2.calls = s.calls ∧
  (PlayerManager.ban env name s).2.calls = s.calls

/-- Listing agrees with kicking and banning: a name shown in the row for a player is the name of
    that player, and a name that is not shown is nobody's. -/
def Agree (env : Env W) (s : Plugin W) : Prop :=
  ∀ (req : Request) (found : Match),
    (∀ (k : Nat) id pl row, (s.playerManager.players.toList env.order)[k]? = some (id, pl) →
      (listedRows env req found s)[k]? = some row → Targets env s row.name id) ∧
    (∀ name, (∀ row ∈ listedRows env req found s, row.name ≠ name) → TargetsNobody env s name)

/-- The recorded names are the current ones. -/
def Current (env : Env W) (s : Plugin W) : Prop :=
  ∀ id pl, s.playerManager.players.find? id = some pl → pl.name = liveName env s.world id

/-! ## Runs -/

/-- Connects and disconnects of each player alternate, and connected players have different names. Names
    are compared as the plugin reads them, into a buffer of `MAX_PLAYER_NAME` bytes: players whose names
    differ behind that have the same name here. -/
structure Fair (env : Env W) (s : Plugin W) : Prop where
  alternate : alternatingFrom [] s.callbacks = true
  distinct : ((onlineIds s.callbacks).map (liveName env s.world)).Nodup

instance (env : Env W) (s : Plugin W) : Decidable (Fair env s) :=
  decidable_of_iff (alternatingFrom [] s.callbacks = true ∧
    ((onlineIds s.callbacks).map (liveName env s.world)).Nodup)
    ⟨fun h => ⟨h.1, h.2⟩, fun h => ⟨h.alternate, h.distinct⟩⟩

/-- The inputs of a game that stays fair. -/
def Plugin.fairStep (env : Env W) (s : Plugin W) (e : Input W) : Option (Plugin W) :=
  if Fair env (s.step env e).1 then some (s.step env e).1 else none

/-- The game renames no connected player. -/
def Input.KeepsPlayers (env : Env W) (s : Plugin W) : Input W → Prop
  | game w => ∀ id ∈ onlineIds s.callbacks, liveName env w id = liveName env s.world id
  | callback _ => True
  | request _ _ _ => True

/-! ## The rows -/

/-- The program returns and renames nobody: started with some names, it ends with them, and with a
    result that `Q` holds of. -/
def Reads (env : Env W) (names : UInt32 → Str) {α : Type} (c : Act W α) (Q : α → Prop) : Prop :=
  ∀ s, (∀ id, liveName env s.world id = names id) →
    ∃ a t, c s = (.ok a, t) ∧ Q a ∧ ∀ id, liveName env t.world id = names id

namespace Reads
variable {env : Env W} {names : UInt32 → Str} {α β : Type}

lemma pure {a : α} {Q : α → Prop} (h : Q a) : Reads env names (pure a) Q :=
  fun s hs => ⟨a, s, rfl, h, hs⟩

lemma bind {c : Act W α} {k : α → Act W β} {P : α → Prop} {Q : β → Prop}
    (hc : Reads env names c P) (hk : ∀ a, P a → Reads env names (k a) Q) :
    Reads env names (c >>= k) Q := by
  intro s hs
  obtain ⟨a, t, h, hP, ht⟩ := hc s hs
  rw [Prog.bind_ok h]
  exact hk a hP t ht

lemma native (hn : env.KeepsNames) {n : Native} (h : ∀ r, n.left r = []) :
    Reads env names (native env n) fun _ => True := by
  intro s hs
  refine ⟨_, _, rfl, trivial, fun id => ?_⟩
  refine (hn n s.world id ?_).trans (hs id)
  rw [h]
  exact List.not_mem_nil

lemma name (hn : env.KeepsNames) (id : UInt32) :
    Reads env names (SampApi.native env (.GetPlayerName id MAX_PLAYER_NAME))
      fun r => stored MAX_PLAYER_NAME r = names id :=
  fun s hs => ⟨_, _, rfl, hs id, fun j => (hn _ s.world j List.not_mem_nil).trans (hs j)⟩

end Reads

section Rows
variable {env : Env W} (hn : env.KeepsNames) {names : UInt32 → Str}
include hn

/-- The row for a player has its current name. -/
lemma playerData_name (pl : Player) :
    Reads env names (PlayerManager.playerData env pl) fun row => row.name = names pl.id := by
  refine .bind (.native hn fun _ => rfl) fun _ _ => ?_
  refine .bind (.name hn pl.id) fun name hname => ?_
  refine .bind (.native hn fun _ => rfl) fun _ _ => ?_
  refine .bind (.native hn fun _ => rfl) fun _ _ => ?_
  refine .bind (.native hn fun _ => rfl) fun _ _ => ?_
  refine .bind (.native hn fun _ => rfl) fun _ _ => ?_
  refine .bind (.native hn fun _ => rfl) fun _ _ => ?_
  refine .bind (.native hn fun _ => rfl) fun _ _ => ?_
  refine .bind (.native hn fun _ => rfl) fun _ _ => ?_
  refine .bind (.native hn fun _ => rfl) fun _ _ => ?_
  exact .pure hname

lemma pushPlayerData_names (its : List (UInt32 × Player)) (data : List PlayerData) :
    Reads env names (PlayerManager.pushPlayerData env its data) fun rows =>
      rows.map PlayerData.name = data.map PlayerData.name ++ its.map fun it => names it.2.id := by
  induction its generalizing data with
  | nil => exact .pure (List.append_nil _).symm
  | cons it its ih =>
    refine .bind (playerData_name hn it.2) fun row hrow s hs => ?_
    obtain ⟨rows, t, h, hrows, ht⟩ := ih (data ++ [row]) s hs
    refine ⟨rows, t, h, ?_, ht⟩
    rw [hrows, List.map_append, List.append_assoc, List.map_singleton, hrow]
    rfl

/-- A list request shows the current names of the registered players, in the order of iteration. -/
lemma listedRows_names (req : Request) (found : Match) (s : Plugin W) :
    (listedRows env req found s).map PlayerData.name =
      (s.playerManager.players.toList env.order).map fun it => liveName env s.world it.2.id := by
  obtain ⟨rows, t, h, hrows, -⟩ := pushPlayerData_names hn
    (s.playerManager.players.toList env.order) [] s fun _ => rfl
  have hlist : ∀ msg : PlayerMessage, msg.players = [] →
      (player.list env req found (s, msg)).2.2.players = rows := by
    intro msg hmsg
    rw [← hmsg] at h
    rw [list_run req found h]
  -- a new message has no rows yet
  rw [show listedRows env req found s = rows from hlist _ rfl]
  exact hrows

end Rows

/-! ## Agreement -/

lemma kick_calls (env : Env W) (name : Str) (s : Plugin W) :
    (PlayerManager.kick env name s).2.calls =
      match findLogin name (s.playerManager.players.toList env.order) with
      | some pl => s.calls ++ [⟨.Kick pl.id, (env.game (.Kick pl.id) s.world).1⟩]
      | none => s.calls := by
  rw [PlayerManager.kick_run]
  cases findLogin name (s.playerManager.players.toList env.order) with
  | none => rfl
  | some pl =>
    show (pl.disconnect env s).2.calls = _
    rw [pl.disconnect_run, Plugin.leaveAll_calls]
    rfl

lemma ban_calls (env : Env W) (name : Str) (s : Plugin W) :
    (PlayerManager.ban env name s).2.calls =
      match findLogin name (s.playerManager.players.toList env.order) with
      | some pl => s.calls ++ [⟨.Ban pl.id, (env.game (.Ban pl.id) s.world).1⟩]
      | none => s.calls := by
  rw [PlayerManager.ban_run]
  cases findLogin name (s.playerManager.players.toList env.order) with
  | none => rfl
  | some pl =>
    show (pl.ban env s).2.calls = _
    rw [pl.ban_run, Plugin.leaveAll_calls]
    rfl

/-- A name targets the player that is found under it. -/
lemma targets_iff (env : Env W) (s : Plugin W) (name : Str) (id : UInt32) :
    Targets env s name id ↔
      ∃ pl, findLogin name (s.playerManager.players.toList env.order) = some pl ∧ pl.id = id := by
  rw [Targets, kick_calls, ban_calls]
  cases findLogin name (s.playerManager.players.toList env.order) with
  | none => simp
  | some pl =>
    constructor
    · intro h
      obtain ⟨⟨r, h⟩, -⟩ := h
      refine ⟨pl, rfl, ?_⟩
      have hcall := (List.append_cancel_left_eq ..).mp h
      injection (List.cons.inj hcall).1 with hn
      injection hn
    · intro h
      obtain ⟨_, h, rfl⟩ := h
      cases h
      exact ⟨⟨_, rfl⟩, _, rfl⟩

/-- A name targets nobody if no player is found under it. -/
lemma targetsNobody_iff (env : Env W) (s : Plugin W) (name : Str) :
    TargetsNobody env s name ↔
      findLogin name (s.playerManager.players.toList env.order) = none := by
  rw [TargetsNobody, kick_calls, ban_calls]
  cases findLogin name (s.playerManager.players.toList env.order) with
  | none => simp
  | some pl => simp

/-- Connected players with one name are one player. -/
lemma Fair.same {env : Env W} {s : Plugin W} (hf : Fair env s) (ht : s.Tracked) {id id' : UInt32}
    {pl pl' : Player} (h : s.playerManager.players.find? id = some pl)
    (h' : s.playerManager.players.find? id' = some pl')
    (hname : liveName env s.world id = liveName env s.world id') : id = id' :=
  List.inj_on_of_nodup_map hf.distinct (ht.online.2 ⟨pl, h⟩) (ht.online.2 ⟨pl', h'⟩) hname

section Agreement
variable {env : Env W} (hn : env.KeepsNames) {s : Plugin W}
include hn

/-- The row for a player shows its current name. -/
lemma row_name {req : Request} {found : Match} {k : Nat} {id : UInt32} {pl : Player}
    {row : PlayerData} (ht : s.Tracked)
    (hk : (s.playerManager.players.toList env.order)[k]? = some (id, pl))
    (hrow : (listedRows env req found s)[k]? = some row) :
    s.playerManager.players.find? id = some pl ∧ row.name = liveName env s.world id := by
  have hpl := HashMap.mem_toList.1 (List.mem_of_getElem? hk)
  refine ⟨hpl, ?_⟩
  have h := congrArg (fun l => l[k]?) (listedRows_names hn req found s)
  simp only [List.getElem?_map, hk, hrow, Option.map_some] at h
  rw [Option.some.inj h, ht.ids hpl]

/-- Every registered player has a row. -/
lemma exists_row (req : Request) (found : Match) {k : Nat} {it : UInt32 × Player}
    (hk : (s.playerManager.players.toList env.order)[k]? = some it) :
    ∃ row, (listedRows env req found s)[k]? = some row := by
  have h := congrArg (fun l => l[k]?) (listedRows_names hn req found s)
  simp only [List.getElem?_map, hk, Option.map_some] at h
  obtain ⟨row, hrow, -⟩ := Option.map_eq_some_iff.1 h
  exact ⟨row, hrow⟩

/-- Listing agrees with kicking and banning exactly if the recorded names are the current ones. -/
theorem agree_iff (ht : s.Tracked) (hf : Fair env s) : Agree env s ↔ Current env s := by
  constructor
  · intro h id pl hpl
    obtain ⟨hshown, -⟩ := h ⟨11, .get, [], []⟩ {}
    -- the row for the player shows the current name, so that name must find the player
    obtain ⟨k, hk⟩ := List.mem_iff_getElem?.1 (HashMap.mem_toList (o := env.order).2 hpl)
    obtain ⟨row, hrow⟩ := exists_row hn ⟨11, .get, [], []⟩ {} hk
    obtain ⟨-, hname⟩ := row_name hn ht hk hrow
    obtain ⟨pl', hfind, hid⟩ := (targets_iff ..).1 (hshown k id pl row hk hrow)
    obtain ⟨⟨id', hmem'⟩, hname'⟩ := findLogin_mem hfind
    have hpl' := HashMap.mem_toList.1 hmem'
    obtain rfl : id' = id := (ht.ids hpl').symm.trans hid
    cases hpl.symm.trans hpl'
    exact hname'.trans hname
  · intro h req found
    refine ⟨fun k id pl row hk hrow => ?_, fun name hno => ?_⟩
    · obtain ⟨hpl, hname⟩ := row_name hn ht hk hrow
      rw [targets_iff]
      cases hfind : findLogin row.name (s.playerManager.players.toList env.order) with
      | none =>
        -- the player itself would be found
        have hne := findLogin_none.1 hfind (id, pl) (List.mem_of_getElem? hk)
        exact absurd ((h id pl hpl).trans hname.symm) hne
      | some pl' =>
        obtain ⟨⟨id', hmem'⟩, hname'⟩ := findLogin_mem hfind
        have hpl' := HashMap.mem_toList.1 hmem'
        refine ⟨pl', rfl, (ht.ids hpl').trans (hf.same ht hpl' hpl ?_)⟩
        exact (h id' pl' hpl').symm.trans (hname'.trans hname)
    · rw [targetsNobody_iff, findLogin_none]
      rintro ⟨id, pl⟩ hmem hname
      obtain ⟨k, hk⟩ := List.mem_iff_getElem?.1 hmem
      obtain ⟨row, hrow⟩ := exists_row hn req found hk
      obtain ⟨hpl, hlive⟩ := row_name hn ht hk hrow
      exact hno row (List.mem_of_getElem? hrow) (hlive.trans ((h id pl hpl).symm.trans hname))

end Agreement

/-! ## Steps -/

/-- Players of the second plugin are players of the first one, with the names that they had. -/
structure Plugin.Undisturbed (env : Env W) (s t : Plugin W) : Prop where
  shrinks : s.Shrinks t
  names : ∀ {id pl}, t.playerManager.players.find? id = some pl →
    liveName env t.world id = liveName env s.world id

lemma Plugin.Undisturbed.trans {env : Env W} {s t u : Plugin W} (h : s.Undisturbed env t)
    (h' : t.Undisturbed env u) : s.Undisturbed env u :=
  ⟨h.shrinks.trans h'.shrinks, fun hu =>
    (h'.names hu).trans (h.names (h'.shrinks.subset hu))⟩

section Steps
variable {env : Env W} (hn : env.KeepsNames)
include hn

lemma leaveAll_undisturbed {n : Native} (s : Plugin W) :
    s.Undisturbed env ((s.called env n).leaveAll (n.left (env.game n s.world).1)) := by
  have hc : s.Shrinks (s.called env n) := .of_eq rfl rfl
  refine ⟨hc.trans (.leaveAll _ _), fun {id pl} h => ?_⟩
  rw [Plugin.leaveAll_find?] at h
  split at h
  · cases h
  · rename_i hleft
    rw [Plugin.leaveAll_world]
    exact hn n s.world id hleft

lemma Basic.undisturbed {α : Type} {c : Act W α} (h : Basic env c) :
    Frame (Plugin.Undisturbed env) c := by
  intro s
  cases h with
  | native n hleft =>
    have h := leaveAll_undisturbed hn (n := n) s
    rw [hleft] at h
    exact h
  | disconnect pl =>
    rw [pl.disconnect_run]
    exact leaveAll_undisturbed hn (n := .Kick pl.id) s
  | ban pl =>
    rw [pl.ban_run]
    exact leaveAll_undisturbed hn (n := .Ban pl.id) s
  | players => exact ⟨.of_eq rfl rfl, fun _ => rfl⟩
  | log line => exact ⟨.of_eq rfl rfl, fun _ => rfl⟩

/-- The recorded names stay current exactly if the game renames no connected player. -/
theorem step_current {s : Plugin W} (hs : s.handler.Registered) (ht : s.Tracked)
    (hc : Current env s) (e : Input W) :
    Current env (s.step env e).1 ↔ e.KeepsPlayers env s := by
  cases e with
  | callback c =>
    refine iff_of_true (fun id pl h => ?_) trivial
    cases c with
    | disconnect id' =>
      have hsub := (Plugin.Shrinks.leaveAll s [id']).subset h
      exact hc id pl hsub
    | connect id' =>
      have hlive : liveName env (env.game (.GetPlayerName id' MAX_PLAYER_NAME) s.world).2 id =
          liveName env s.world id := hn _ s.world id List.not_mem_nil
      refine Eq.trans ?_ hlive.symm
      have hfind := (s.playerManager.players.find?_emplace id' id _).symm.trans h
      split at hfind
      · rename_i e
        subst e
        cases hold : s.playerManager.players.find? id with
        | none =>
          rw [hold] at hfind
          cases hfind
          rfl
        | some pl' =>
          rw [hold] at hfind
          cases hfind
          exact hc id _ hold
      · exact hc id pl hfind
  | game w =>
    constructor
    · intro h id hid
      obtain ⟨pl, hpl⟩ := ht.online.1 hid
      exact (h id pl hpl).symm.trans (hc id pl hpl)
    · intro h id pl hpl
      exact (hc id pl hpl).trans (h id (ht.online.2 ⟨pl, hpl⟩)).symm
  | request req remote time =>
    refine iff_of_true (fun id pl h => ?_) trivial
    have hu : s.Undisturbed env (s.step env (.request req remote time)).1 :=
      step_request_frame (fun _ _ _ h h' => h.trans h') (Basic.undisturbed hn)
        (fun h => ⟨.of_eq h.callbacks h.playerManager, fun _ => by rw [h.world]⟩) req remote time hs
    rw [hu.names h]
    exact hc id pl (hu.shrinks.subset h)

end Steps

lemma fairStep_eq_some {env : Env W} {s t : Plugin W} {e : Input W} :
    s.fairStep env e = some t ↔ Fair env (s.step env e).1 ∧ (s.step env e).1 = t := by
  rw [Plugin.fairStep, Option.ite_none_right_eq_some, Option.some.injEq]

/-- Along every fair run from an empty registry, listing agrees with kicking and banning in all
    states if and only if the game renames no connected player. -/
theorem list_agrees_iff {env : Env W} (hn : env.KeepsNames) {p t : Plugin W}
    (hp : p.handler.Registered) (hc : p.callbacks = []) (hm : p.playerManager = {})
    {es : List (Input W)} (hr : run (Plugin.fairStep env) p es = some t) :
    (∀ s, Visits (Plugin.fairStep env) p es s → Agree env s) ↔
      ∀ s e, Takes (Plugin.fairStep env) p es s e → e.KeepsPlayers env s := by
  have hfair : Fair env p := by
    refine ⟨?_, ?_⟩
    · rw [hc]
      rfl
    · rw [hc]
      exact List.nodup_nil
  refine visits_iff_takes
    (I := fun s => s.handler.Registered ∧ s.Tracked ∧ Fair env s) ?_ ?_ hr
    ⟨hp, initial_tracked hc hm, hfair⟩ ?_
  · rintro s e t hst ⟨hs, ht, -⟩
    obtain ⟨hf, rfl⟩ := fairStep_eq_some.1 hst
    exact ⟨(step_settings env hs e).registered hs, step_tracked env hs ht e, hf⟩
  · rintro s e t hst ⟨hs, ht, hf⟩ ha
    obtain ⟨hf', rfl⟩ := fairStep_eq_some.1 hst
    rw [agree_iff hn (step_tracked env hs ht e) hf']
    exact step_current hn hs ht ((agree_iff hn ht hf).1 ha) e
  · -- nobody is registered at the start
    rw [agree_iff hn (initial_tracked hc hm) hfair]
    intro id pl h
    rw [hm] at h
    cases h

/-- The natives of the small game rename nobody. -/
lemma Demo.env_keepsNames : Demo.env.KeepsNames := by
  have hremove : ∀ (g : Demo.Game) (id id' : UInt32),
      id' ∉ (if (g.names.lookup id).isSome then [id] else []) →
      (g.remove id).names.lookup id' = g.names.lookup id' := by
    intro g id id' h
    rw [Demo.Game.remove, lookup_filter_ne]
    split
    · rename_i e
      subst e
      -- nobody with that id was there
      cases hg : g.names.lookup id' with
      | none => rfl
      | some name =>
        rw [hg] at h
        exact absurd List.mem_cons_self h
    · rfl
  intro n g id h
  cases n with
  | Kick id' => exact congrArg (fun x => stored MAX_PLAYER_NAME (x.getD [])) (hremove g id' id h)
  | Ban id' => exact congrArg (fun x => stored MAX_PLAYER_NAME (x.getD [])) (hremove g id' id h)
  | _ => rfl

section Example
open Demo

/-- A game with two players. -/
def Demo.pair : Plugin Game := plugin { names := [(1, "bob".toList), (2, "alice".toList)] }

/-- Two players connect, the first one is renamed, and the second one takes its name. -/
def Demo.swap : List (Input Game) := [
  .callback (.connect 1),
  .callback (.connect 2),
  .game { names := [(1, "al".toList), (2, "alice".toList)] },
  .game { names := [(1, "al".toList), (2, "bob".toList)] }]

/-- After the second player has taken the name `bob` of the first one, its row shows `bob`, and a kick
    of `bob` kicks the first player. -/
theorem list_disagrees :
    ∃ t, run (Plugin.fairStep env) pair swap = some t ∧
      (t.playerManager.players.toList env.order)[1]? = some (2, ⟨2, "alice".toList⟩) ∧
      (listedRows env visit {} t).map PlayerData.name = ["al".toList, "bob".toList] ∧
      Targets env t "bob".toList 1 ∧ ¬ Agree env t := by
  have hrun : run (Plugin.fairStep env) pair swap = some (after (Plugin.step env) pair swap) := by
    refine (run_cons_some _).2 ⟨_, fairStep_eq_some.2 ⟨by decide, rfl⟩, ?_⟩
    refine (run_cons_some _).2 ⟨_, fairStep_eq_some.2 ⟨by decide, rfl⟩, ?_⟩
    refine (run_cons_some _).2 ⟨_, fairStep_eq_some.2 ⟨by decide, rfl⟩, ?_⟩
    exact (run_cons_some _).2 ⟨_, fairStep_eq_some.2 ⟨by decide, rfl⟩, rfl⟩
  have hplayers : (after (Plugin.step env) pair swap).playerManager.players.toList env.order =
      [(1, ⟨1, "bob".toList⟩), (2, ⟨2, "alice".toList⟩)] := by decide
  have hnames : (listedRows env visit {} (after (Plugin.step env) pair swap)).map PlayerData.name =
      ["al".toList, "bob".toList] := by
    rw [listedRows_names env_keepsNames, hplayers]
    decide
  have hbob : findLogin "bob".toList [(1, ⟨1, "bob".toList⟩), (2, ⟨2, "alice".toList⟩)] =
      some ⟨1, "bob".toList⟩ := by decide
  refine ⟨_, hrun, by rw [hplayers]; rfl, hnames, ?_, fun h => ?_⟩
  · rw [targets_iff, hplayers]
    exact ⟨_, hbob, rfl⟩
  · generalize after (Plugin.step env) pair swap = t at hplayers hnames h
    -- the second row is the one of the second player
    obtain ⟨row, hrow, hname⟩ : ∃ row, (listedRows env visit {} t)[1]? = some row ∧
        row.name = "bob".toList := by
      have h1 := congrArg (fun l => l[1]?) hnames
      exact Option.map_eq_some_iff.1 (List.getElem?_map.symm.trans h1)
    have htarget := (h visit {}).1 1 2 ⟨2, "alice".toList⟩ row (by rw [hplayers]; rfl) hrow
    rw [targets_iff, hplayers, hname] at htarget
    obtain ⟨pl, hpl, hid⟩ := htarget
    cases hbob.symm.trans hpl
    exact absurd hid (by decide)

/-- Without a rename, two players are kicked under the names that are shown for them. -/
theorem list_agrees_iff_connects :
    ∃ t, run (Plugin.fairStep env) pair [.callback (.connect 1), .callback (.connect 2)] = some t ∧
      Agree env t := by
  have hr : run (Plugin.fairStep env) pair [.callback (.connect 1), .callback (.connect 2)] =
      some (after (Plugin.step env) pair [.callback (.connect 1), .callback (.connect 2)]) := by
    refine (run_cons_some _).2 ⟨_, fairStep_eq_some.2 ⟨by decide, rfl⟩, ?_⟩
    exact (run_cons_some _).2 ⟨_, fairStep_eq_some.2 ⟨by decide, rfl⟩, rfl⟩
  refine ⟨_, hr, ?_⟩
  refine (list_agrees_iff env_keepsNames ⟨rfl, rfl⟩ rfl rfl hr).2 ?_ _ (.last hr)
  rintro s e ⟨pre, suf, hes, -⟩
  have hmem : e ∈ pre ++ e :: suf := by simp
  rw [← hes] at hmem
  rcases List.mem_cons.1 hmem with rfl | hmem
  · exact trivial
  · cases List.mem_singleton.1 hmem
    exact trivial

end Example

end SampApi

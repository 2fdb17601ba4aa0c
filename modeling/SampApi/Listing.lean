import SampApi.Occupants
import SampApi.Status

/-!
# The list of players

`player::list` makes a row of every entry of the registry, and queries the game for the id that is
stored in the entry. Along every run the entries are those of the connected players, and each is stored
under its own id, so the list has exactly one row for each connected player (`list_exact`). Who is
connected is told by the callbacks on record (`after_callbacks`).
-/

namespace SampApi
open Lib RouteFunction

variable {W : Type}

/-- The last callback that is about an id. -/
def lastCallback (id : UInt32) (cs : List Callback) : Option Callback :=
  cs.reverse.find? fun c => c.slot = id

/-! ## Rows -/

/-- The login of a player, with the replies to the queries for the player's id. -/
structure Row where
  id : UInt32
  login : Str
  pos : Single × Single × Single
  name : Str
  health : Single
  armor : Single
  skin : Int32
  score : Int32
  addr : Str
  ping : Int32
  vehicleID : Int32
  isNpc : Bool

namespace Row

/-- The queries for a row, all for the same id. -/
def calls (r : Row) : List Call := [
  ⟨.GetPlayerPos r.id, r.pos⟩,
  ⟨.GetPlayerName r.id MAX_PLAYER_NAME, r.name⟩,
  ⟨.GetPlayerHealth r.id, r.health⟩,
  ⟨.GetPlayerArmour r.id, r.armor⟩,
  ⟨.GetPlayerSkin r.id, r.skin⟩,
  ⟨.GetPlayerScore r.id, r.score⟩,
  ⟨.GetPlayerIp r.id 15, r.addr⟩,
  ⟨.GetPlayerPing r.id, r.ping⟩,
  ⟨.GetPlayerVehicleID r.id, r.vehicleID⟩,
  ⟨.IsPlayerNPC r.id, r.isNpc⟩]

/-- What the response has of a row. -/
def data (r : Row) : PlayerData where
  login := r.login
  name := stored MAX_PLAYER_NAME r.name
  x := r.pos.1
  y := r.pos.2.1
  z := r.pos.2.2
  health := r.health
  armor := r.armor
  skin := r.skin.toUInt32.toUInt16
  score := r.score.toUInt32
  ip := stored 15 r.addr
  ping := r.ping.toUInt32.toUInt16
  vehicleID := r.vehicleID.toUInt32
  isNpc := r.isNpc

end Row

/-- The rows list the players of `s`: one row for each id whose last callback was a connect, made of
    queries for that id and of the entry for it, and no other queries. -/
structure Lists (s q : Plugin W) (msg : PlayerMessage) (rows : List Row) : Prop where
  ids : ∀ id, id ∈ rows.map Row.id ↔ lastCallback id s.callbacks = some (.connect id)
  once : (rows.map Row.id).Nodup
  logins : ∀ row ∈ rows, s.playerManager.getPlayer row.id = some ⟨row.id, row.login⟩
  calls : q.calls = s.calls ++ rows.flatMap Row.calls
  players : msg.players = rows.map Row.data
  count : msg.count = UInt32.ofNat rows.length
  -- the only number of rows that `count` cannot tell is the one that takes all ids
  exact : (∃ id, lastCallback id s.callbacks ≠ some (.connect id)) → msg.count.toNat = rows.length

/-! ## The loop -/

/-- A row is made of ten queries for the id that is stored in the player. -/
lemma playerData_row (env : Env W) (pl : Player) (s : Plugin W) :
    ∃ (row : Row) (t : Plugin W), row.id = pl.id ∧ row.login = pl.name ∧
      PlayerManager.playerData env pl s = (.ok row.data, t) ∧ t.calls = s.calls ++ row.calls := by
  refine ⟨⟨pl.id, pl.name, _, _, _, _, _, _, _, _, _, _⟩, _, rfl, rfl, rfl, ?_⟩
  simp only [List.append_assoc, List.singleton_append]
  rfl

lemma pushPlayerData_rows (env : Env W) (its : List (UInt32 × Player)) (data : List PlayerData)
    (s : Plugin W) :
    ∃ (rows : List Row) (t : Plugin W),
      rows.map (fun row => (row.id, row.login)) = its.map (fun it => (it.2.id, it.2.name)) ∧
      PlayerManager.pushPlayerData env its data s = (.ok (data ++ rows.map Row.data), t) ∧
      t.calls = s.calls ++ rows.flatMap Row.calls := by
  induction its generalizing data s with
  | nil => exact ⟨[], s, rfl, by rw [List.map_nil, List.append_nil]; rfl, (List.append_nil _).symm⟩
  | cons it its ih =>
    obtain ⟨row, t, hid, hlogin, hrun, hcalls⟩ := playerData_row env it.2 s
    obtain ⟨rows, u, hids, hpush, hrest⟩ := ih (data ++ [row.data]) t
    refine ⟨row :: rows, u, ?_, ?_, ?_⟩
    · rw [List.map_cons, List.map_cons, hids, hid, hlogin]
    · rw [PlayerManager.pushPlayerData, Prog.bind_ok hrun, hpush, List.append_assoc]
      rfl
    · rw [hrest, hcalls, List.append_assoc, List.flatMap_cons]

/-! ## The registry -/

lemma lastCallback_append (id : UInt32) (cs : List Callback) (c : Callback) :
    lastCallback id (cs ++ [c]) = if c.slot = id then some c else lastCallback id cs := by
  rw [lastCallback, List.reverse_append, List.reverse_singleton, List.singleton_append]
  by_cases h : c.slot = id
  · rw [if_pos h, List.find?_cons_of_pos (by simpa using h)]
  · rw [if_neg h, List.find?_cons_of_neg (by simpa using h), lastCallback]

lemma mem_onlineIds_iff {id : UInt32} {cs : List Callback} :
    id ∈ onlineIds cs ↔ lastCallback id cs = some (.connect id) := by
  induction cs using List.reverseRecOn with
  | nil => exact iff_of_false List.not_mem_nil nofun
  | append_singleton cs c ih =>
    rw [lastCallback_append]
    cases c with
    | connect j =>
      rw [mem_onlineIds_connect, Callback.slot]
      by_cases h : j = id
      · subst h
        rw [if_pos rfl]
        exact iff_of_true (.inl rfl) rfl
      · rw [if_neg h, ih]
        exact or_iff_right fun e => h e.symm
    | disconnect j =>
      rw [mem_onlineIds_disconnect, Callback.slot]
      by_cases h : j = id
      · subst h
        rw [if_pos rfl]
        exact iff_of_false (fun h => h.2 rfl) nofun
      · rw [if_neg h, ih]
        exact and_iff_left fun e => h e.symm

/-- The ids stored in the entries are the keys of the map. -/
lemma Plugin.Tracked.stored_ids {s : Plugin W} (h : s.Tracked) (o : IterationOrder UInt32 Player) :
    (s.playerManager.players.toList o).map (fun it => it.2.id) =
      (s.playerManager.players.toList o).map Prod.fst := by
  apply List.map_congr_left
  intro it hit
  exact h.ids (HashMap.mem_toList.1 hit)

/-- Different numbers that leave one out are less than `2 ^ 32` many. -/
lemma length_lt_of_nodup {ids : List UInt32} (h : ids.Nodup) {id : UInt32} (hid : id ∉ ids) :
    ids.length < 2 ^ 32 := by
  have hcons : (id :: ids).Nodup := List.nodup_cons.2 ⟨hid, h⟩
  have hnat : ((id :: ids).map UInt32.toNat).Nodup :=
    hcons.map fun a b hab => UInt32.toNat_inj.1 hab
  have hsub : (id :: ids).map UInt32.toNat ⊆ List.range (2 ^ 32) := by
    intro n hn
    obtain ⟨a, -, rfl⟩ := List.mem_map.1 hn
    exact List.mem_range.2 a.toNat_lt
  have hle := (hnat.subperm hsub).length_le
  rw [List.length_map, List.length_range] at hle
  exact hle

/-! ## The list -/

/-- Listing the players of a registry that follows the callbacks. -/
lemma getPlayerData_lists (env : Env W) (req : Request) (found : Match) {s : Plugin W}
    (h : s.Tracked) (msg : PlayerMessage) (hmsg : msg.players = []) :
    ∃ (rows : List Row) (q : Plugin W) (msg' : PlayerMessage),
      player.list env req found (s, msg) = (.ok true, q, msg') ∧ Lists s q msg' rows := by
  obtain ⟨rows, q, hids, hrun, hcalls⟩ :=
    pushPlayerData_rows env (s.playerManager.players.toList env.order) [] s
  have hget : PlayerManager.getPlayerData env msg.players s = (.ok (rows.map Row.data), q) := by
    rw [hmsg]
    exact hrun
  have hkeys : rows.map Row.id = (s.playerManager.players.toList env.order).map Prod.fst := by
    have hfst := congrArg (List.map Prod.fst) hids
    rw [List.map_map, List.map_map] at hfst
    exact hfst.trans (h.stored_ids env.order)
  have hmem : ∀ id, id ∈ rows.map Row.id ↔ lastCallback id s.callbacks = some (.connect id) := by
    intro id
    rw [← mem_onlineIds_iff, h.online, hkeys, List.mem_map]
    constructor
    · intro hid
      obtain ⟨⟨_, pl⟩, hit, rfl⟩ := hid
      exact ⟨pl, HashMap.mem_toList.1 hit⟩
    · intro hpl
      obtain ⟨pl, hpl⟩ := hpl
      exact ⟨(id, pl), HashMap.mem_toList.2 hpl, rfl⟩
  have honce : (rows.map Row.id).Nodup := by
    rw [hkeys]
    exact (((env.order.perm _ _).map Prod.fst).nodup_iff).2 s.playerManager.players.nodup
  refine ⟨rows, q, _, list_run req found hget, hmem, honce, ?_, hcalls, rfl, ?_, ?_⟩
  · intro row hrow
    have hmem := List.mem_map_of_mem (f := fun row => (row.id, row.login)) hrow
    rw [hids] at hmem
    obtain ⟨⟨id, pl⟩, hit, heq⟩ := List.mem_map.1 hmem
    obtain ⟨hid, hlogin⟩ := Prod.mk.inj heq
    have hpl := HashMap.mem_toList.1 hit
    have hkey : row.id = id := hid.symm.trans (h.ids hpl)
    rw [PlayerManager.getPlayer, hkey, hpl, ← hlogin, ← h.ids hpl]
  · exact congrArg UInt32.ofNat (List.length_map _)
  · intro hout
    obtain ⟨id, hid⟩ := hout
    have hlt := length_lt_of_nodup honce fun hin => hid ((hmem id).1 hin)
    rw [List.length_map] at hlt
    show (UInt32.ofNat (rows.map Row.data).length).toNat = rows.length
    rw [List.length_map]
    exact UInt32.toNat_ofNat_of_lt hlt

/-- The list of players loses and duplicates nobody. After any run that starts with an empty registry,
    and for any order of iteration, every key of the registry is the id of the player stored there,
    and an authorised `/player/list` is answered with one row for each id whose last callback was a
    connect. -/
theorem list_exact (env : Env W) {p : Plugin W} (hs : p.handler.Registered)
    (hc : p.callbacks = []) (hm : p.playerManager = {}) (es : List (Input W)) {s : Plugin W}
    (hr : after (Plugin.step env) p es = s) (req : Request) (response : Response) (remote : Str)
    (t : Int) (ha : (Handler.authorize env req remote s).1 = .ok true)
    (htarget : req.target = "/player/list".toList) :
    (∀ id pl, s.playerManager.getPlayer id = some pl → pl.id = id) ∧
    ∃ r q, Handler.handleRequest env req response remote t s = (.ok r, q) ∧ r.result = 200 ∧
      ∃ (rows : List Row) (msg : PlayerMessage),
        r.body = response.body ++ env.encode msg ∧ Lists s q msg rows := by
  subst hr
  obtain ⟨hs, ht⟩ := after_invariant
    (I := fun s : Plugin W => s.handler.Registered ∧ s.Tracked)
    (fun s e h => ⟨(step_settings env h.1 e).registered h.1, step_tracked env h.1 h.2 e⟩)
    ⟨hs, initial_tracked hc hm⟩ es
  generalize after (Plugin.step env) p es = s at hs ht ha
  rw [Handler.authorize_run] at ha
  have hchosen : chosen req.target = some (.playerList, {}) := by
    rw [htarget]
    rfl
  refine ⟨fun id pl hpl => ht.ids hpl, ?_⟩
  have hreply := handleRequest_matched env req response remote t hs (Except.ok.inj ha) hchosen
  -- authorisation has changed neither the registry nor the records
  have hchecked : (s.checked env req remote).Tracked := ht.congr rfl rfl
  obtain ⟨rows, q, msg, hrun, hlists⟩ := getPlayerData_lists env req {} hchecked
    ({ message := "OK".toList } : PlayerMessage) rfl
  have hout : RouteFunction.playerList.outcome env req {} (s.checked env req remote) = _ := hrun
  refine ⟨_, _, hreply, ?_, rows, _, rfl, ?_⟩
  · rw [hout]
    rfl
  · rw [RouteFunction.ended, hout]
    exact ⟨hlists.ids, hlists.once, hlists.logins, hlists.calls, hlists.players, hlists.count,
      hlists.exact⟩

section Example
open Demo

/-- A request to list the players. -/
def Demo.listing : Request where
  method := .post
  target := "/player/list".toList
  body := "\x7b\"password\":\"pw\",\"hash\":419077832\x7d".toList

/-- The small game, with a JSON library that knows the body of that request. -/
def Demo.listEnv : Env Game :=
  json listing.body [
    ("password".toList, .string "pw".toList), ("hash".toList, .number 419077832)]

/-- Player 2 connects twice, player 1 leaves again, and player 3 leaves without having been there. -/
def Demo.reconnect : List (Input Game) := [
  .callback (.connect 1),
  .callback (.connect 2),
  .callback (.disconnect 3),
  .callback (.connect 2),
  .callback (.disconnect 1)]

/-- Only player 2 is listed. -/
theorem list_exact_reconnect :
    ∃ r q, Handler.handleRequest listEnv listing {} remote 0
        (after (Plugin.step listEnv) pair reconnect) = (.ok r, q) ∧
      ∃ (rows : List Row) (msg : PlayerMessage),
        r.body = listEnv.encode msg ∧ rows.map Row.id = [2] ∧ msg.count = 1 ∧
        Lists (after (Plugin.step listEnv) pair reconnect) q msg rows := by
  have ha : (Handler.authorize listEnv listing remote
      (after (Plugin.step listEnv) pair reconnect)).1 = .ok true := by decide +kernel
  obtain ⟨-, r, q, hrun, -, rows, msg, hbody, h⟩ :=
    list_exact listEnv ⟨rfl, rfl⟩ rfl rfl reconnect rfl listing {} remote 0 ha rfl
  have hids : rows.map Row.id = [2] := by
    apply List.perm_singleton.1
    refine (List.perm_ext_iff_of_nodup h.once (List.nodup_singleton 2)).2 fun id => ?_
    rw [h.ids, ← mem_onlineIds_iff]
    exact Iff.rfl
  have hlength : rows.length = 1 := by
    have hl := congrArg List.length hids
    rwa [List.length_map] at hl
  refine ⟨r, q, hrun, rows, msg, hbody, hids, ?_, h⟩
  rw [h.count, hlength]
  rfl

end Example

end SampApi

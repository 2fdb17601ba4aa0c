import SampApi.Plugin

/-!
# Players

Model of `src/api/PlayerManager.cpp` and `src/api/Player.cpp`, with the two player callbacks of
`src/api/Api.cpp`. The registry records the name that a player has when it connects.

`Kick` and `Ban` are natives that remove a player, so the game may call `OnPlayerDisconnect` before
they return. The loops that call them return at once and do not touch the map again, so a list of the
entries made before the loop is as good as the iterators of the source.
-/

namespace SampApi
open Lib

variable {W : Type}

/-- The size of the buffer for a player name. -/
def MAX_PLAYER_NAME : Nat := 24

/-! ## Callbacks -/

/-- The registry without a player (source `PlayerManager::RemovePlayer`). -/
def PlayerManager.removePlayer (m : PlayerManager) (id : UInt32) : PlayerManager :=
  match m.players.find? id with
  | some _ => ⟨m.players.erase id⟩
  | none => m

/-- Registers a player (source `PlayerManager::AddPlayer`). -/
def PlayerManager.addPlayer (env : Env W) (id : UInt32) : Act W Unit := do
  let name ← native env (.GetPlayerName id MAX_PLAYER_NAME)
  let p : Player := ⟨id, stored MAX_PLAYER_NAME name⟩
  Prog.update fun s => { s with playerManager := ⟨s.playerManager.players.emplace id p⟩ }

/-- A registered player (source `PlayerManager::GetPlayer`). -/
def PlayerManager.getPlayer (m : PlayerManager) (id : UInt32) : Option Player := m.players.find? id

/-- Records a callback. -/
def received (c : Callback) : Act W Unit :=
  Prog.update fun s => { s with callbacks := s.callbacks ++ [c] }

/-- A player has connected (source `OnPlayerConnect`). -/
def onPlayerConnect (env : Env W) (id : UInt32) : Act W Unit := do
  received (.connect id)
  PlayerManager.addPlayer env id

/-- The plugin after a player has left. -/
def Plugin.leave (p : Plugin W) (id : UInt32) : Plugin W :=
  { p with
    callbacks := p.callbacks ++ [.disconnect id]
    playerManager := p.playerManager.removePlayer id }

/-- A player has left (source `OnPlayerDisconnect`). -/
def onPlayerDisconnect (id : UInt32) : Act W Unit := Prog.update fun p => p.leave id

/-- The callbacks that the game makes before a removing native returns. -/
def reenter : List UInt32 → Act W Unit
  | [] => pure ()
  | id :: ids => do
    onPlayerDisconnect id
    reenter ids

/-! ## Players -/

/-- Kicks a player (source `Player::Disconnect`). -/
def Player.disconnect (env : Env W) (p : Player) : Act W Bool := do
  let r ← native env (.Kick p.id)
  reenter r.left
  return r.ok

/-- Bans a player (source `Player::Ban`). -/
def Player.ban (env : Env W) (p : Player) : Act W Bool := do
  let r ← native env (.Ban p.id)
  reenter r.left
  return r.ok

/-! ## The registry -/

namespace PlayerManager

/-- The row for a player (the body of the loop in `PlayerManager::GetPlayerData`). -/
def playerData (env : Env W) (p : Player) : Act W PlayerData := do
  let (x, y, z) ← native env (.GetPlayerPos p.id)
  let name ← native env (.GetPlayerName p.id MAX_PLAYER_NAME)
  let health ← native env (.GetPlayerHealth p.id)
  let armor ← native env (.GetPlayerArmour p.id)
  let skin ← native env (.GetPlayerSkin p.id)
  let score ← native env (.GetPlayerScore p.id)
  let addr ← native env (.GetPlayerIp p.id 15)
  let ping ← native env (.GetPlayerPing p.id)
  let vehicleID ← native env (.GetPlayerVehicleID p.id)
  let isNpc ← native env (.IsPlayerNPC p.id)
  return {
    login := p.name
    name := stored MAX_PLAYER_NAME name
    x, y, z, health, armor
    skin := Int32.toUInt32 skin |>.toUInt16
    score := Int32.toUInt32 score
    ip := stored 15 addr
    ping := Int32.toUInt32 ping |>.toUInt16
    vehicleID := Int32.toUInt32 vehicleID
    isNpc }

/-- The loop of `PlayerManager::GetPlayerData`. -/
def pushPlayerData (env : Env W) :
    List (UInt32 × Player) → List PlayerData → Act W (List PlayerData)
  | [], data => return data
  | it :: its, data => do
    let d ← playerData env it.2
    pushPlayerData env its (data ++ [d])

/-- Appends a row for each player (source `PlayerManager::GetPlayerData`). -/
def getPlayerData (env : Env W) (data : List PlayerData) : Act W (List PlayerData) := do
  let its ← Prog.gets fun s => s.playerManager.players.toList env.order
  pushPlayerData env its data

/-- The loop of `PlayerManager::Kick` and `PlayerManager::Ban`: acts on the first player with the
    login. -/
def forLogin (act : Player → Act W Bool) (name : Str) : List (UInt32 × Player) → Act W Bool
  | [] => return false
  | it :: its => if it.2.name ≠ name then forLogin act name its else act it.2

/-- Kicks the player with a name (source `PlayerManager::Kick`). -/
def kick (env : Env W) (name : Str) : Act W Bool := do
  let its ← Prog.gets fun s => s.playerManager.players.toList env.order
  forLogin (Player.disconnect env) name its

/-- Bans the player with a name (source `PlayerManager::Ban`). -/
def ban (env : Env W) (name : Str) : Act W Bool := do
  let its ← Prog.gets fun s => s.playerManager.players.toList env.order
  forLogin (Player.ban env) name its

end PlayerManager

/-! ## What the functions do -/

/-- The plugin after some players have left. -/
def Plugin.leaveAll (p : Plugin W) (ids : List UInt32) : Plugin W := ids.foldl Plugin.leave p

@[simp] lemma reenter_run (ids : List UInt32) (p : Plugin W) :
    reenter ids p = (.ok (), p.leaveAll ids) := by
  induction ids generalizing p with
  | nil => rfl
  | cons id ids ih => exact ih (p.leave id)

lemma Plugin.leaveAll_world (p : Plugin W) (ids : List UInt32) :
    (p.leaveAll ids).world = p.world := by
  induction ids generalizing p with
  | nil => rfl
  | cons id ids ih => exact ih (p.leave id)

lemma Plugin.leaveAll_calls (p : Plugin W) (ids : List UInt32) :
    (p.leaveAll ids).calls = p.calls := by
  induction ids generalizing p with
  | nil => rfl
  | cons id ids ih => exact ih (p.leave id)

/-- The first player of a list with a login. -/
def findLogin (name : Str) (its : List (UInt32 × Player)) : Option Player :=
  (its.map Prod.snd).find? fun p => p.name = name

lemma findLogin_mem {name : Str} {its : List (UInt32 × Player)} {pl : Player}
    (h : findLogin name its = some pl) : (∃ id, (id, pl) ∈ its) ∧ pl.name = name := by
  have hm := List.mem_of_find?_eq_some h
  obtain ⟨⟨id, pl'⟩, hit, rfl⟩ := List.mem_map.1 hm
  have hn := List.find?_some h
  exact ⟨⟨id, hit⟩, by simpa using hn⟩

lemma findLogin_none {name : Str} {its : List (UInt32 × Player)} :
    findLogin name its = none ↔ ∀ it ∈ its, it.2.name ≠ name := by
  simp [findLogin, List.find?_eq_none]

/-- The loop acts on the first player with the login, if there is one, and otherwise does nothing. -/
lemma PlayerManager.forLogin_run (act : Player → Act W Bool) (name : Str)
    (its : List (UInt32 × Player)) (p : Plugin W) :
    forLogin act name its p =
      match findLogin name its with
      | some pl => act pl p
      | none => (.ok false, p) := by
  induction its with
  | nil => rfl
  | cons it its ih =>
    rw [forLogin]
    by_cases h : it.2.name = name
    · rw [if_neg (not_not_intro h), findLogin, List.map_cons,
        List.find?_cons_of_pos (by simpa using h)]
    · rw [if_pos h, ih, findLogin, findLogin, List.map_cons,
        List.find?_cons_of_neg (by simpa using h)]

/-- The state that a native call leaves. -/
def Plugin.called (env : Env W) (p : Plugin W) (n : Native) : Plugin W :=
  { p with
    world := (env.game n p.world).2
    calls := p.calls ++ [⟨n, (env.game n p.world).1⟩] }

lemma Player.disconnect_run (env : Env W) (pl : Player) (p : Plugin W) :
    pl.disconnect env p =
      (.ok (env.game (.Kick pl.id) p.world).1.ok,
        (p.called env (.Kick pl.id)).leaveAll (env.game (.Kick pl.id) p.world).1.left) := by
  rw [disconnect, Prog.bind_ok (native_run ..), Prog.bind_ok (reenter_run ..)]
  rfl

lemma Player.ban_run (env : Env W) (pl : Player) (p : Plugin W) :
    pl.ban env p =
      (.ok (env.game (.Ban pl.id) p.world).1.ok,
        (p.called env (.Ban pl.id)).leaveAll (env.game (.Ban pl.id) p.world).1.left) := by
  rw [ban, Prog.bind_ok (native_run ..), Prog.bind_ok (reenter_run ..)]
  rfl

/-- `kick` calls the native for the first player with the name, in the order of iteration. -/
lemma PlayerManager.kick_run (env : Env W) (name : Str) (p : Plugin W) :
    kick env name p =
      match findLogin name (p.playerManager.players.toList env.order) with
      | some pl => pl.disconnect env p
      | none => (.ok false, p) := by
  rw [kick, Prog.gets_bind_run, forLogin_run]

/-- `ban` calls the native for the first player with the name, in the order of iteration. -/
lemma PlayerManager.ban_run (env : Env W) (name : Str) (p : Plugin W) :
    ban env name p =
      match findLogin name (p.playerManager.players.toList env.order) with
      | some pl => pl.ban env p
      | none => (.ok false, p) := by
  rw [ban, Prog.gets_bind_run, forLogin_run]

end SampApi

import SampApi.Config
import SampApi.Lib.Prog
import SampApi.Route

/-!
# The plugin and its surroundings

The plugin runs inside of a game server. It calls the natives of the game, whose state `W` nobody but
the game itself knows, reads the system clock, writes a log and uses a JSON library and a hash
function; `Env` collects all of these as parameters. `Plugin` is the state of the plugin: its globals
`playerManager` and `sampConfig`, the `Handler` of its endpoint, and next to them the state of the
game and a record of what has happened: the native calls, the callbacks, the functions behind routes
that were run and the lines logged. No function of the plugin reads this record.

Player ids are `int` in the callbacks and the natives and `uint32_t` in the plugin; the conversion is
a bijection and both are `UInt32` here.
-/

namespace SampApi
open Lib

/-! ## Natives -/

/-- The calls of game natives, with their arguments. -/
inductive Native where
  | GetPlayerName (id : UInt32) (size : Nat)
  | GetPlayerPos (id : UInt32)
  | GetPlayerHealth (id : UInt32)
  | GetPlayerArmour (id : UInt32)
  | GetPlayerSkin (id : UInt32)
  | GetPlayerScore (id : UInt32)
  | GetPlayerIp (id : UInt32) (size : Nat)
  | GetPlayerPing (id : UInt32)
  | GetPlayerVehicleID (id : UInt32)
  | IsPlayerNPC (id : UInt32)
  | Kick (id : UInt32)
  | Ban (id : UInt32)
  | SendPlayerMessageToAll (senderid : Int32) (message : Str)
  | BlockIpAddress (ip : Str) (timems : Int32)
  | UnBlockIpAddress (ip : Str)
  | SetGameModeText (text : Str)
  | SetGravity (gravity : Single)
  | SetWeather (weatherid : Int32)
  | GetTickCount
  | GetServerTickRate
  | GetGravity
  | GetActorPoolSize
  | GetVehiclePoolSize
  | GetMaxPlayers
  deriving DecidableEq, Repr

/-- The reply of a native that removes a player: its result, and the ids for which the game called
    `OnPlayerDisconnect` before it returned. -/
structure Removal where
  ok : Bool
  left : List UInt32
  deriving DecidableEq, Repr

/-- What a native replies: its result, and what it writes through its pointers. For a buffer that is
    the text the game has for it, before it is cut to the size of the buffer. -/
def Native.Ret : Native → Type
  | GetPlayerName _ _ => Str
  | GetPlayerPos _ => Single × Single × Single
  | GetPlayerHealth _ => Single
  | GetPlayerArmour _ => Single
  | GetPlayerSkin _ => Int32
  | GetPlayerScore _ => Int32
  | GetPlayerIp _ _ => Str
  | GetPlayerPing _ => Int32
  | GetPlayerVehicleID _ => Int32
  | IsPlayerNPC _ => Bool
  | Kick _ => Removal
  | Ban _ => Removal
  | SendPlayerMessageToAll _ _ => Bool
  | BlockIpAddress _ _ => Bool
  | UnBlockIpAddress _ => Bool
  | SetGameModeText _ => Bool
  | SetGravity _ => Bool
  | SetWeather _ => Bool
  | GetTickCount => Int32
  | GetServerTickRate => Int32
  | GetGravity => Single
  | GetActorPoolSize => Int32
  | GetVehiclePoolSize => Int32
  | GetMaxPlayers => Int32

/-- The players that are gone when a native returns. -/
def Native.left : (n : Native) → n.Ret → List UInt32
  | Kick _, r => r.left
  | Ban _, r => r.left
  | _, _ => []

/-- A native call with its reply. -/
structure Call where
  native : Native
  reply : native.Ret

/-- The string that a buffer of `size` bytes holds after a native stored a text in it: at most
    `size - 1` bytes, up to the first NUL. -/
def stored (size : Nat) (text : Str) : Str := cStr (text.take (size - 1))

/-! ## State -/

/-- A registered player, with the name that it had when it connected (source `Player`). -/
structure Player where
  id : UInt32
  name : Str
  deriving DecidableEq, Repr

structure PlayerManager where
  players : HashMap UInt32 Player := .empty

/-- The functions behind the routes (source namespaces `player`, `misc` and `settings`). -/
inductive RouteFunction where
  | playerList
  | playerKick
  | playerBan
  | miscSay
  | miscEcho
  | miscIpban
  | miscIpunban
  | settingsGamemodetext
  | settingsGravity
  | settingsWeather
  | settingsList
  deriving DecidableEq, Repr

/-- The request handler of the endpoint. Its password and seed are `none` until they are set. -/
structure Handler where
  password : Option Str := none
  seed : Option UInt32 := none
  routes : OrdMap Str RouteFunction := .empty
  route : Route := {}

/-- A function behind a route that was run: the captures it got, and how it ended. -/
structure Invocation where
  function : RouteFunction
  found : Match
  outcome : Except Exn Bool

/-- A callback of the game. -/
inductive Callback where
  | connect (id : UInt32)
  | disconnect (id : UInt32)
  deriving DecidableEq, Repr

/-- What the plugin finds around it: the natives of the game, the iteration order of the player map,
    the readings of the system clock in nanoseconds, the JSON library and the hash function. -/
structure Env (W : Type) where
  game : (n : Native) → W → n.Ret × W
  order : IterationOrder UInt32 Player
  now : Nat → Int
  decode : {T : Type} → [DefaultCodec T] → Str → Except Str T
  encode : {T : Type} → [DefaultCodec T] → T → Str
  XXH32 : Str → UInt32 → UInt32

/-- The state of the plugin and of the game around it. -/
structure Plugin (W : Type) where
  world : W
  calls : List Call := []
  callbacks : List Callback := []
  handled : List Invocation := []
  log : List Str := []
  readings : Nat := 0
  playerManager : PlayerManager := {}
  sampConfig : Config := {}
  handler : Handler := {}

variable {W : Type}

/-- A program of the plugin. -/
abbrev Act (W : Type) := Prog (Plugin W) Exn

/-- Calls a native of the game. -/
def native (env : Env W) (n : Native) : Act W n.Ret := fun p =>
  let r := env.game n p.world
  (.ok r.1, { p with world := r.2, calls := p.calls ++ [⟨n, r.1⟩] })

/-- Reads the clock (source `std::chrono::system_clock::now`). -/
def now (env : Env W) : Act W Int := fun p =>
  (.ok (env.now p.readings), { p with readings := p.readings + 1 })

/-- Writes a line to the log (source `SAMP_INFO` and `SAMP_WARN`). -/
def log (line : Str) : Act W Unit := Prog.update fun p => { p with log := p.log ++ [line] }

/-- Decodes a body (source `spotify::json::decode`). -/
def decode (env : Env W) (T : Type) [DefaultCodec T] (body : Str) : Except Exn T :=
  match env.decode body with
  | .ok request => .ok request
  | .error what => .error (.decode_exception what)

@[simp] lemma native_run (env : Env W) (n : Native) (p : Plugin W) :
    native env n p = (.ok (env.game n p.world).1,
      { p with
        world := (env.game n p.world).2
        calls := p.calls ++ [⟨n, (env.game n p.world).1⟩] }) := rfl

@[simp] lemma now_run (env : Env W) (p : Plugin W) :
    now env p = (.ok (env.now p.readings), { p with readings := p.readings + 1 }) := rfl

end SampApi

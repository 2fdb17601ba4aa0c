import SampApi.Handler

/-!
# A small game

Surroundings of the plugin that can be computed with, for the examples next to the theorems: a game
that knows the current names of its players and removes them on demand, and libraries that know the
few texts of the examples.
-/

namespace SampApi.Demo
open Lib

/-- A game: its players with their current names, and whether its setters succeed. -/
structure Game where
  names : List (UInt32 × Str) := []
  ok : Bool := true
  deriving DecidableEq, Repr

/-- The game without a player. -/
def Game.remove (g : Game) (id : UInt32) : Game :=
  { g with names := g.names.filter fun e => e.1 ≠ id }

/-- The natives of the game. Removing a player that is there calls `OnPlayerDisconnect` at once. -/
def play : (n : Native) → Game → n.Ret × Game
  | .GetPlayerName id _, g => (((g.names.lookup id).getD [] : Str), g)
  | .GetPlayerPos _, g => ((⟨0⟩, ⟨0⟩, ⟨0⟩), g)
  | .GetPlayerHealth _, g => ((⟨0⟩ : Single), g)
  | .GetPlayerArmour _, g => ((⟨0⟩ : Single), g)
  | .GetPlayerSkin _, g => ((0 : Int32), g)
  | .GetPlayerScore _, g => ((0 : Int32), g)
  | .GetPlayerIp _ _, g => (("10.0.0.7".toList : Str), g)
  | .GetPlayerPing _, g => ((40 : Int32), g)
  | .GetPlayerVehicleID _, g => ((0 : Int32), g)
  | .IsPlayerNPC _, g => (false, g)
  | .Kick id, g =>
    ((⟨(g.names.lookup id).isSome, if (g.names.lookup id).isSome then [id] else []⟩ : Removal),
      g.remove id)
  | .Ban id, g =>
    ((⟨(g.names.lookup id).isSome, if (g.names.lookup id).isSome then [id] else []⟩ : Removal),
      g.remove id)
  | .SendPlayerMessageToAll _ _, g => (g.ok, g)
  | .BlockIpAddress _ _, g => (g.ok, g)
  | .UnBlockIpAddress _, g => (g.ok, g)
  | .SetGameModeText _, g => (g.ok, g)
  | .SetGravity _, g => (g.ok, g)
  | .SetWeather _, g => (g.ok, g)
  | .GetTickCount, g => ((0 : Int32), g)
  | .GetServerTickRate, g => ((0 : Int32), g)
  | .GetGravity, g => ((⟨0⟩ : Single), g)
  | .GetActorPoolSize, g => ((0 : Int32), g)
  | .GetVehiclePoolSize, g => ((0 : Int32), g)
  | .GetMaxPlayers, g => ((50 : Int32), g)

/-- The hashes of some targets with the default seed. -/
def hashes : List (Str × UInt32) := [
  ("/player/kick/bob".toList, 2398126755),
  ("/player/list".toList, 419077832),
  ("/misc/ip/ban".toList, 371789582),
  ("/misc/say".toList, 2296495698)]

/-- Some bodies, with the members of the objects they are. -/
def bodies : List (Str × List (Str × Value)) := [
  ("\x7b\"password\":\"pw\",\"hash\":2398126755\x7d".toList, [
    ("password".toList, .string "pw".toList), ("hash".toList, .number 2398126755)]),
  ("\x7b\"password\":\"pw\",\"hash\":371789582,\"address\":\"1.2.3.4\",\"time\":60\x7d".toList, [
    ("password".toList, .string "pw".toList), ("hash".toList, .number 371789582),
    ("address".toList, .string "1.2.3.4".toList), ("time".toList, .number 60)])]

/-- The game with its libraries. -/
def env : Env Game where
  game := play
  order := .byAge UInt32 Player
  now n := 1000000 * n
  decode body :=
    match bodies.lookup body with
    | some members => DefaultCodec.codec.fill members DefaultCodec.new
    | none => .error "Unexpected input".toList
  encode _ := "\x7b\x7d".toList
  XXH32 target _ := (hashes.lookup target).getD 0

/-- The game with a JSON library that knows one text, and the members of the object it is. -/
def json (text : Str) (members : List (Str × Value)) : Env Game :=
  { env with
    decode := fun body =>
      if body = text then DefaultCodec.codec.fill members DefaultCodec.new
      else .error "Unexpected input".toList
    encode := fun _ => text }

/-- A plugin with the password `pw` and the default seed. -/
def plugin (world : Game) : Plugin Game where
  world
  handler := (Handler.registerFunctions {}).setPassword "pw".toList |>.setSeed 17733194

/-- A request to kick the player `bob`. -/
def kickBob : Request where
  method := .post
  target := "/player/kick/bob".toList
  body := "\x7b\"password\":\"pw\",\"hash\":2398126755\x7d".toList

/-- A request to ban an address for a minute. -/
def banAddress : Request where
  method := .post
  target := "/misc/ip/ban".toList
  body := "\x7b\"password\":\"pw\",\"hash\":371789582,\"address\":\"1.2.3.4\",\"time\":60\x7d".toList

/-- A request without a body, which is not authorised. -/
def visit : Request where
  method := .get
  target := "/player/list".toList

/-- A request with a method that the plugin does not know. -/
def put : Request where
  method := .other "PUT".toList
  target := "/player/list".toList

/-- The address that the requests come from. -/
def remote : Str := "127.0.0.1".toList

end SampApi.Demo

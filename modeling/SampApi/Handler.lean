import SampApi.PlayerManager

/-!
# Requests

Model of `src/api/Handler.cpp` and `src/api/Handler.hpp`. `Handler.handleRequest` authorises a
request, looks for the first route whose template matches the target, and runs the function behind
it; a `RouteHandler` turns the result of that function, or the `decode_exception` that it throws, into
a status code and a message.

A function behind a route changes the plugin and the message it was given, which it keeps when it
throws: it is a program over both.
-/

namespace SampApi
open Lib

variable {W T : Type}

/-! ## HTTP messages -/

/-- The method of a request; the ones that the plugin does not know behave alike. -/
inductive Verb where
  | get
  | post
  | other (name : Str)
  deriving DecidableEq, Repr

structure Request where
  version : Nat := 11
  method : Verb
  target : Str
  body : Str := []
  deriving DecidableEq, Repr

/-- A response. The library sets the status 200 in a new one. -/
structure Response where
  version : Nat := 11
  keep_alive : Bool := true
  result : Nat := 200
  content_type : Option Str := none
  content_length : Option Nat := none
  body : Str := []
  deriving DecidableEq, Repr

/-- Sets the status of a response; the library refuses more than three digits. -/
def Response.setResult (r : Response) (code : Nat) : Except Exn Response :=
  if code > 999 then .error (.invalid_argument "invalid status-code".toList)
  else .ok { r with result := code }

/-! ## Message types -/

/-- A class derived from `Message`, with its part that is a message. -/
class IsMessage (T : Type) extends DefaultCodec T where
  base : T → Message
  setBase : T → Message → T
  base_setBase : ∀ t m, base (setBase t m) = m
  setBase_setBase : ∀ t m m', setBase (setBase t m) m' = setBase t m'

instance : IsMessage Message where
  base := id
  setBase _ m := m
  base_setBase _ _ := rfl
  setBase_setBase _ _ _ := rfl

instance : IsMessage PlayerMessage where
  base := PlayerMessage.toMessage
  setBase t m := { t with toMessage := m }
  base_setBase _ _ := rfl
  setBase_setBase _ _ _ := rfl

instance : IsMessage SettingsMessage where
  base := SettingsMessage.toMessage
  setBase t m := { t with toMessage := m }
  base_setBase _ _ := rfl
  setBase_setBase _ _ _ := rfl

open IsMessage DefaultCodec

/-! ## Functions behind routes -/

/-- Changes the message that a function behind a route was given. -/
def write (f : T → T) : Prog (Plugin W × T) Exn Unit := Prog.update fun s => (s.1, f s.2)

/-- Sets the text of the message. -/
def reply (text : Str) : Prog (Plugin W × Message) Exn Unit :=
  write fun msg => { msg with message := text }

namespace player

/-- Lists the players (source `player::list`). -/
def list (env : Env W) (_ : Request) (_ : Match) : Prog (Plugin W × PlayerMessage) Exn Bool := do
  let msg ← Prog.gets Prod.snd
  let players ← Prog.onFst (PlayerManager.getPlayerData env msg.players)
  write fun msg => { msg with players, count := UInt32.ofNat players.length }
  return true

/-- The common form of `player::kick` and `player::ban`. -/
def onName (act : Str → Act W Bool) (done : String) (m : Match) :
    Prog (Plugin W × Message) Exn Bool := do
  let str := m.get "name".toList
  let ok ← Prog.onFst (act str)
  if !ok then do
    reply ("Invalid player ".toList ++ str)
    return false
  else do
    reply ("Player ".toList ++ str ++ done.toList)
    return true

/-- Kicks a player (source `player::kick`). -/
def kick (env : Env W) (_ : Request) (m : Match) : Prog (Plugin W × Message) Exn Bool :=
  onName (PlayerManager.kick env) " got kicked" m

/-- Bans a player (source `player::ban`). -/
def ban (env : Env W) (_ : Request) (m : Match) : Prog (Plugin W × Message) Exn Bool :=
  onName (PlayerManager.ban env) " got banned" m

end player

namespace misc

/-- Sends a message to all players (source `misc::say`). The result of the native is not used, and
    the color stands where the native expects a sender. -/
def say (env : Env W) (req : Request) (_ : Match) : Prog (Plugin W × Message) Exn Bool := do
  let request ← Prog.lift (decode env SayRequest req.body)
  let message := request.name ++ ": ".toList ++ request.message
  let _ ← Prog.onFst (native env (.SendPlayerMessageToAll request.color (cStr message)))
  reply "OK".toList
  return true

/-- Writes a message to the log (source `misc::echo`). -/
def echo (env : Env W) (req : Request) (_ : Match) : Prog (Plugin W × Message) Exn Bool := do
  let request ← Prog.lift (decode env SayRequest req.body)
  Prog.onFst (log ("Message from ".toList ++ request.name ++ ": ".toList ++ request.message))
  reply "OK".toList
  return true

/-- Blocks an address (source `misc::ipban`). The result `true` of the native is taken for a
    failure. -/
def ipban (env : Env W) (req : Request) (_ : Match) : Prog (Plugin W × Message) Exn Bool := do
  let request ← Prog.lift (decode env IpRequest req.body)
  let ok : Bool ← Prog.onFst
    (native env (.BlockIpAddress (cStr request.address) (request.time * 1000).toInt32))
  if ok then do
    reply ("Failed to add ip to banlist: ".toList ++ cStr request.address)
    return false
  else do
    reply ("Added ip to banlist: ".toList ++ request.address ++ " time: ".toList
      ++ decimal (request.time * 1000).toNat ++ " seconds".toList)
    return true

/-- Unblocks an address (source `misc::ipunban`). The result `true` of the native is taken for a
    failure. -/
def ipunban (env : Env W) (req : Request) (_ : Match) : Prog (Plugin W × Message) Exn Bool := do
  let request ← Prog.lift (decode env IpRequest req.body)
  let ok : Bool ← Prog.onFst (native env (.UnBlockIpAddress (cStr request.address)))
  if ok then do
    reply ("Failed to remove ip from banlist: ".toList ++ cStr request.address)
    return false
  else do
    reply ("Removed ip from banlist: ".toList ++ request.address)
    return true

end misc

namespace settings

/-- The common form of the functions that change a setting. -/
def change (env : Env W) (R : Type) [DefaultCodec R] (set : R → Act W Bool)
    (failure success : String) (req : Request) : Prog (Plugin W × Message) Exn Bool := do
  let request ← Prog.lift (decode env R req.body)
  let ok ← Prog.onFst (set request)
  if !ok then do
    reply failure.toList
    return false
  else do
    reply success.toList
    return true

/-- Changes the game mode text (source `settings::gamemodetext`). -/
def gamemodetext (env : Env W) (req : Request) (_ : Match) :
    Prog (Plugin W × Message) Exn Bool :=
  change env SimpleRequest (fun request => native env (.SetGameModeText (cStr request.value)))
    "Failed to update gamemode text" "Gamemode text changed" req

/-- Changes the gravity (source `settings::gravity`). -/
def gravity (env : Env W) (req : Request) (_ : Match) : Prog (Plugin W × Message) Exn Bool :=
  change env GravityRequest (fun request => native env (.SetGravity request.gravity))
    "Failed to update gravity" "Gravity changed" req

/-- Changes the weather (source `settings::weather`). -/
def weather (env : Env W) (req : Request) (_ : Match) : Prog (Plugin W × Message) Exn Bool :=
  change env SimpleIntRequest (fun request => native env (.SetWeather request.value.toInt32))
    "Failed to update weather" "Weather changed" req

/-- Reports the settings (source `settings::list`). -/
def list (env : Env W) (_ : Request) (_ : Match) : Prog (Plugin W × SettingsMessage) Exn Bool := do
  let tickcount ← Prog.onFst (native env .GetTickCount)
  let tickrate ← Prog.onFst (native env .GetServerTickRate)
  let gravity ← Prog.onFst (native env .GetGravity)
  let apoolsize ← Prog.onFst (native env .GetActorPoolSize)
  let vpoolsize ← Prog.onFst (native env .GetVehiclePoolSize)
  let maxplayers ← Prog.onFst (native env .GetMaxPlayers)
  write fun message => { message with
    tickcount := Int32.toUInt32 tickcount
    tickrate := Int32.toUInt32 tickrate
    gravity
    apoolsize := Int32.toUInt32 apoolsize
    vpoolsize := Int32.toUInt32 vpoolsize
    maxplayers := Int32.toUInt32 maxplayers }
  return true

end settings

/-! ## Route handlers -/

/-- The milliseconds between two readings of the clock, as an `uint32_t`. -/
def elapsed (start stop : Int) : UInt32 :=
  UInt32.ofNat (((stop - start).tdiv 1000000 % 2 ^ 32).toNat)

/-- Fills the header of a response and the time of its message (source
    `SimpleRouteHandler::Finalize`). -/
def finalize [IsMessage T] (env : Env W) (response : Response) (message : T) (p : Int) :
    Act W (Response × T) := do
  let response := { response with content_type := some "application/json".toList }
  let response ← Prog.lift (response.setResult (base message).code.toNat)
  let stop ← now env
  return (response, setBase message { base message with time := elapsed p stop })

/-- Finalises a response and writes its message into the body (in the source the last lines of both
    `RouteHandler::HandleRequest` and `RequestInvalidHandler::HandleRequest`). -/
def answer [IsMessage T] (env : Env W) (response : Response) (data : T) (p : Int) :
    Act W Response := do
  let (response, data) ← finalize env response data p
  return { response with body := response.body ++ env.encode data }

/-- A function behind a route whose messages are of type `T`. -/
structure RouteHandler (W T : Type) where
  function : RouteFunction
  handler : Request → Match → Prog (Plugin W × T) Exn Bool

/-- Runs the function behind a route and records that. -/
def RouteHandler.call (h : RouteHandler W T) (req : Request) (m : Match) (data : T) :
    Act W (Except Exn Bool × T) := do
  let r ← Prog.withLocal (h.handler req m) data
  Prog.update fun s => { s with handled := s.handled ++ [⟨h.function, m, r.1⟩] }
  return r

/-- Answers a request by the function behind a route (source `RouteHandler::HandleRequest`). -/
def RouteHandler.handleRequest [IsMessage T] (env : Env W) (h : RouteHandler W T) (req : Request)
    (response : Response) (m : Match) (p : Int) : Act W Response := do
  let data : T := setBase new { base (new : T) with message := "OK".toList }
  let (outcome, data) ← h.call req m data
  match outcome with
  | .ok true =>
    answer env response (setBase data { base data with type := "response".toList, code := 200 }) p
  | .ok false =>
    answer env response (setBase data { base data with code := 417, type := "error".toList }) p
  | .error (.decode_exception what) =>
    answer env response (setBase data { base data with
      code := 500, message := "Invalid request error: ".toList ++ what }) p
  | .error e => Prog.raise e

/-- The message type of a function behind a route (source the second argument of `CreateRoute`). -/
def RouteFunction.Data : RouteFunction → Type
  | playerList => PlayerMessage
  | playerKick => Message
  | playerBan => Message
  | miscSay => Message
  | miscEcho => Message
  | miscIpban => Message
  | miscIpunban => Message
  | settingsGamemodetext => Message
  | settingsGravity => Message
  | settingsWeather => Message
  | settingsList => SettingsMessage

instance : (f : RouteFunction) → IsMessage f.Data
  | .playerList => inferInstanceAs (IsMessage PlayerMessage)
  | .playerKick => inferInstanceAs (IsMessage Message)
  | .playerBan => inferInstanceAs (IsMessage Message)
  | .miscSay => inferInstanceAs (IsMessage Message)
  | .miscEcho => inferInstanceAs (IsMessage Message)
  | .miscIpban => inferInstanceAs (IsMessage Message)
  | .miscIpunban => inferInstanceAs (IsMessage Message)
  | .settingsGamemodetext => inferInstanceAs (IsMessage Message)
  | .settingsGravity => inferInstanceAs (IsMessage Message)
  | .settingsWeather => inferInstanceAs (IsMessage Message)
  | .settingsList => inferInstanceAs (IsMessage SettingsMessage)

/-- The function itself (source the third argument of `CreateRoute`). -/
def RouteFunction.handler (env : Env W) :
    (f : RouteFunction) → Request → Match → Prog (Plugin W × f.Data) Exn Bool
  | playerList => player.list env
  | playerKick => player.kick env
  | playerBan => player.ban env
  | miscSay => misc.say env
  | miscEcho => misc.echo env
  | miscIpban => misc.ipban env
  | miscIpunban => misc.ipunban env
  | settingsGamemodetext => settings.gamemodetext env
  | settingsGravity => settings.gravity env
  | settingsWeather => settings.weather env
  | settingsList => settings.list env

/-- Answers a request by a function behind a route (source the objects made by `CreateRoute`). -/
def RouteFunction.handleRequest (env : Env W) (f : RouteFunction) (req : Request)
    (response : Response) (m : Match) (p : Int) : Act W Response :=
  RouteHandler.handleRequest env ⟨f, f.handler env⟩ req response m p

/-! ## The handler -/

namespace Handler

/-- Adds a route (source `CreateRoute`). -/
def createRoute (h : Handler) (path : String) (f : RouteFunction) : Handler :=
  { h with routes := h.routes.emplace path.toList f }

/-- Fills the table of routes (source `Handler::RegisterFunctions`). -/
def registerFunctions (h : Handler) : Handler :=
  let h := h.createRoute "/player/list" .playerList
  let h := h.createRoute "/player/kick/:name" .playerKick
  let h := h.createRoute "/player/ban/:name" .playerBan
  let h := h.createRoute "/misc/say" .miscSay
  let h := h.createRoute "/misc/echo" .miscEcho
  let h := h.createRoute "/misc/ip/ban" .miscIpban
  let h := h.createRoute "/misc/ip/unban" .miscIpunban
  let h := h.createRoute "/settings/gamemodetext" .settingsGamemodetext
  let h := h.createRoute "/settings/gravity" .settingsGravity
  let h := h.createRoute "/settings/weather" .settingsWeather
  h.createRoute "/settings/list" .settingsList

def setPassword (h : Handler) (password : Str) : Handler := { h with password := some password }

def setSeed (h : Handler) (seed : UInt32) : Handler := { h with seed := some seed }

/-- Starts a match of the target (source `route_.set`). -/
def setRoute (u : Str) : Act W Match := do
  let h ← Prog.gets Plugin.handler
  let (route, m) ← Prog.lift (h.route.set u)
  Prog.update fun p => { p with handler := { p.handler with route } }
  return m

/-- Answers with an error (source `Handler::ShowError`). -/
def showError (env : Env W) (req : Request) (response : Response) (code : UInt32) (message : String)
    (p : Int) : Act W Response := do
  let msg : Message := { type := "error".toList, code, message := message.toList }
  let _ ← setRoute req.target
  answer env response msg p

/-- The line logged for a wrong password or hash. -/
def invalidPassword (remote uri : Str) (body : BodyRequest) (h : UInt32) : Str :=
  "[".toList ++ remote ++ "] Invalid request password: ".toList ++ body.password
    ++ "  hash: ".toList ++ decimal body.hash.toNat ++ " required hash: ".toList
    ++ decimal h.toNat ++ " uri: ".toList ++ uri

/-- Decides whether a request may be handled (source `Handler::Authorize`). -/
def authorize (env : Env W) (req : Request) (remote : Str) : Act W Bool := do
  let uri := req.target
  let config ← Prog.gets Plugin.sampConfig
  let (_, ips) := config.getAll "api_ip_whitelist".toList []
  let ready := if ips.length > 0 then false else true
  let ready := ips.foldl (fun ready ip => if ip = remote then true else ready) ready
  if !ready then return false
  else do
    let handler ← Prog.gets Plugin.handler
    match decode env BodyRequest req.body with
    | .ok body =>
      let h := env.XXH32 uri (handler.seed.getD 0)
      if handler.password.getD [] ≠ body.password ∨ h ≠ body.hash then do
        log (invalidPassword remote uri body h)
        return false
      else return true
    | .error (.decode_exception _) => return false
    | .error e => Prog.raise e

/-- The loop over the routes in `Handler::HandleRequest`, with what comes behind it. -/
def dispatch (env : Env W) (req : Request) (response : Response) (p : Int) :
    List (Str × RouteFunction) → Match → Act W Response
  | [], _ => showError env req response 404 "Invalid route" p
  | route :: routes, m => do
    let handler ← Prog.gets Plugin.handler
    let (found, m) ← Prog.lift (m.test handler.route route.1)
    if found then route.2.handleRequest env req { response with result := 200 } m p
    else dispatch env req response p routes m

/-- Answers a request (source `Handler::HandleRequest`). -/
def handleRequest (env : Env W) (req : Request) (response : Response) (remote : Str) (p : Int) :
    Act W Response := do
  let m ← setRoute req.target
  let authorized ← authorize env req remote
  if !authorized then showError env req response 401 "Unauthorized" p
  else do
    let handler ← Prog.gets Plugin.handler
    dispatch env req response p handler.routes.entries m

end Handler
end SampApi

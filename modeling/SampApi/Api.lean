import SampApi.Endpoint

/-!
# Start-up

Model of the exported function `Load` in `src/api/Api.cpp`, with the endpoint that it creates and the
log of `src/share/log/Log.cpp` that it opens. Everything that `Load` asks the host for is in `Host`.
`Load` assigns the globals as it goes along, so they stay as they are when it fails or throws.
-/

namespace SampApi
open Lib

/-- What the plugin finds when it is loaded: the result of `sampgdk::Load`, the file system, the log
    files, and the ports that an acceptor can be bound to. -/
structure Host where
  sampgdkLoad : Bool
  is_regular_file : Str → Except Exn Bool
  is_directory : Str → Except Exn Bool
  create_directories : Str → Except Exn Bool
  daily_file_sink : Str → Except Exn Unit
  content : Str → Option Str
  bind : UInt16 → Except Exn Unit

/-! ## The log -/

/-- The part of a path before its last component (source `boost::filesystem::path::parent_path`). -/
def parentPath (path : Str) : Str := ['/'].intercalate (path.splitOn '/').dropLast

/-- Makes sure that the directory of a file exists (source `Log::CheckPath`). -/
def Host.checkPath (host : Host) (path : Str) : Except Exn Bool := do
  if ← host.is_regular_file path then return true
  let parent := parentPath path
  if parent.isEmpty then return true
  if ← host.is_directory parent then return true
  if ← host.is_regular_file parent then return true
  host.create_directories parent

/-- Adds a log file (source `Log::RegisterLogSink`). -/
def Host.registerLogSink (host : Host) (name : Str) : Except Exn Bool :=
  let added : Except Exn Bool := do
    if !(← host.checkPath name) then return false
    host.daily_file_sink name
    return true
  match added with
  | .error .spdlog_ex => .ok false
  | result => result

/-- Opens the log (source `OpenLog`); the sink for the log of the game is always accepted. -/
def Host.openLog (host : Host) : Except Exn Bool := do
  if !(← host.registerLogSink "logs/api.log".toList) then return false
  return true

/-! ## The endpoint -/

/-- An endpoint: an acceptor that is bound to a port and listens, its accept operation, and its
    handler. There is no endpoint whose acceptor is not bound: the constructor throws instead. -/
structure Endpoint where
  port : UInt16
  accept : Op Connection := .idle
  handler : Handler

/-- Binds an acceptor to the port, modulo `2 ^ 16`, and fills the route table (source the constructor
    of `Endpoint`). -/
def Endpoint.new (host : Host) (port : UInt32) : Except Exn Endpoint := do
  host.bind port.toUInt16
  return { port := port.toUInt16, handler := Handler.registerFunctions {} }

/-- Begins to accept clients (source `Endpoint::Listen`). -/
def Endpoint.listen (e : Endpoint) : Endpoint := { e with accept := .pending }

/-! ## Load -/

/-- The globals of the plugin. -/
structure Globals where
  log : List Str := []
  playerManager : Option PlayerManager := none
  sampConfig : Option Config := none
  io_service : Bool := false
  e : Option Endpoint := none

/-- An `int` as `uint32_t`. -/
def toUInt32 (n : Int) : UInt32 := UInt32.ofNat (n % 2 ^ 32).toNat

/-- Changes the endpoint. -/
def Globals.withEndpoint (g : Globals) (f : Endpoint → Endpoint) : Globals := { g with e := g.e.map f }

/-- Writes a line to the log. -/
def Globals.info (line : Str) : Prog Globals Exn Unit :=
  Prog.update fun g => { g with log := g.log ++ [line] }

/-- Starts the endpoint with the settings that were read (the part of `Load` behind them). -/
def startEndpoint (host : Host) (port seed password : Str) : Prog Globals Exn Unit := do
  let number ← Prog.lift (stoi port)
  let e ← Prog.lift (Endpoint.new host (toUInt32 number))
  Prog.update fun g => { g with e := some e }
  Prog.update fun g => g.withEndpoint fun e => { e with handler := e.handler.setPassword password }
  let value ← Prog.lift (stoul seed)
  Prog.update fun g =>
    g.withEndpoint fun e => { e with handler := e.handler.setSeed (UInt32.ofNat value) }
  Globals.info ("[SA-MP API] Starting listening on port ".toList ++ port ++ ".".toList)
  Prog.update fun g => g.withEndpoint Endpoint.listen

/-- Starts the plugin (source `Load`). -/
def load (host : Host) : Prog Globals Exn Bool := do
  let ret := host.sampgdkLoad
  Prog.update fun g => { g with playerManager := some {} }
  if !(← Prog.lift host.openLog) then do
    -- without a log the line goes to the console of the server, by `logprintf`
    Globals.info "[SA-MP API] Failed to initialize log.".toList
    return false
  else do
    let (ok, config) := Config.load {} (host.content "server.cfg".toList)
    Prog.update fun g => { g with sampConfig := some config }
    if !ok then do
      Globals.info "[SA-MP API] Failed to read server.cfg.".toList
      return false
    else do
      Prog.update fun g => { g with io_service := true }
      let port := config.getDef "api_port".toList "7778".toList 0
      let seed := config.getDef "api_seed".toList "17733194".toList 0
      match config.get "api_password".toList 0 with
      | none => do
        Globals.info "[SA-MP API] Required server config not found: api_password".toList
        return false
      | some password => do
        startEndpoint host port seed password
        return ret

/-- The system that a loaded plugin with an endpoint is a part of. -/
def Globals.system {W : Type} (g : Globals) (e : Endpoint) (world : W) : System W where
  plugin := {
    world
    log := g.log
    playerManager := g.playerManager.getD {}
    sampConfig := g.sampConfig.getD {}
    handler := e.handler }
  accept := e.accept

end SampApi

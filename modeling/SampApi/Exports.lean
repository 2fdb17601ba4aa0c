import SampApi.Registry
import SampApi.Startup

/-!
# The exported functions

The plugin as the game server calls it, from when its library was loaded into the process: the exported
functions of `src/api/Api.cpp`, in any order and any number of times. The globals are pointers, null at
first. `Load` assigns them one after the other and can fail in between; `Unload` makes three of them
null, deletes the log that `Logger` points to, and leaves `ready` as it is. What goes on while the
pointers are valid is the system of the endpoint.

A call that dereferences a pointer that is not valid has no defined effect. `faults_iff` says after which
calls that happens, `load_serves` that a successful `Load` leads to the system that the endpoint serves,
and `registry_since_load` whom the registry knows after loading again; the callbacks that it is about are
those that have come since (`callbacks_since_load`).
-/

namespace SampApi
open Lib

variable {W : Type}

/-! ## The process -/

/-- What the global `Logger` points to; in a new log the pointer to its logger is not set (source
    `m_Logger`). -/
inductive LogPointer where
  | null
  | new
  | setUp
  | deleted
  deriving DecidableEq, Repr

/-- The process: which of the global pointers are not null, and what they point to. -/
structure Process (W : Type) where
  system : System W
  playerManager : Bool := false
  sampConfig : Bool := false
  io_service : Bool := false
  logger : LogPointer := .null

/-- What happens: the game server calls `Load` or `Unload`, or something happens in the system. -/
inductive Process.Event (W : Type) where
  | load (host : Host)
  | unload
  | system (e : SampApi.Event W)

/-- `OpenLog` succeeds. -/
def Host.logOpens (host : Host) : Bool :=
  match host.openLog with
  | .ok opened => opened
  | .error _ => false

/-- `Load` gets to the point where it creates the service. -/
def Host.opens (host : Host) : Bool := host.logOpens && (host.content "server.cfg".toList).isSome

/-- A new service has no sessions, and serves the endpoint that was created for it, if there is one. -/
def System.renew (s : System W) (plugin : Plugin W) (e : Option Endpoint) : System W where
  plugin := { plugin with handler := (e.map Endpoint.handler).getD plugin.handler }
  ready := s.ready
  accept := (e.map Endpoint.accept).getD .idle
  escaped := s.escaped

namespace Process

/-- The process before the first call. -/
def initial (world : W) : Process W := { system := { plugin := { world } } }

/-- Starts the plugin (source `Load`). A pointer that `load` leaves null when all are null at first is
    one that the call does not assign. -/
def load (host : Host) (p : Process W) : Process W :=
  let g := (SampApi.load host {}).2
  let plugin := { p.system.plugin with
    log := p.system.plugin.log ++ g.log
    callbacks := []
    playerManager := g.playerManager.getD p.system.plugin.playerManager
    sampConfig := g.sampConfig.getD p.system.plugin.sampConfig }
  { system := if g.io_service then p.system.renew plugin g.e else { p.system with plugin }
    playerManager := p.playerManager || g.playerManager.isSome
    sampConfig := p.sampConfig || g.sampConfig.isSome
    io_service := p.io_service || g.io_service
    logger := if host.logOpens then .setUp else .new }

/-- Stops the plugin (source `Unload`). Nothing runs the handlers of the service any more. -/
def unload (p : Process W) : Process W where
  system := { p.system with
    plugin := { p.system.plugin with playerManager := {}, sampConfig := {} }
    accept := .idle
    sessions := []
    manager := {} }
  logger := .deleted

/-- The event dereferences a pointer that is not valid. The game server calls a function of the plugin
    only outside of a tick. The handler of a read uses the registry and the configuration, and the log if
    it writes a line to it; lines for debugging are not written. -/
def faults (env : Env W) (p : Process W) : Event W → Bool
  | .load _ => false
  | .unload =>
    !p.system.polling && (!p.io_service || p.logger = .null || p.logger = .deleted)
  | .system (.command (.callback _)) => !p.system.polling && !p.playerManager
  | .system (.command .processTick) => !p.system.polling && p.system.ready && !p.io_service
  | .system (.runRead i) =>
    match p.system.step env (.runRead i) with
    | some s => !p.playerManager || !p.sampConfig ||
      (s.plugin.log ≠ p.system.plugin.log && p.logger ≠ .setUp)
    | none => false
  | .system _ => false

/-- One event; `none` if it cannot happen, or has no defined effect. -/
def step (env : Env W) (p : Process W) (e : Event W) : Option (Process W) :=
  if p.faults env e then none
  else
    match e with
    | .load host => if p.system.polling then none else some (p.load host)
    | .unload => if p.system.polling then none else some p.unload
    | .system e => (p.system.step env e).map fun s => { p with system := s }

/-! ## Histories -/

/-- The calls of `Load` since the last `Unload`, with one more event. -/
def Event.loads (hosts : List Host) : Event W → List Host
  | .load host => hosts ++ [host]
  | .unload => []
  | .system _ => hosts

/-- The calls of `Load` since the last `Unload`. -/
def loads (es : List (Event W)) : List Host := es.foldl Event.loads []

/-- Whether there is a game mode, with one more event. -/
def Event.gameMode (on : Bool) : Event W → Bool
  | .system (.command .gameModeInit) => true
  | .system (.command .gameModeExit) => false
  | _ => on

/-- There is a game mode: it was started and not ended since. -/
def gameMode (es : List (Event W)) : Bool := es.foldl Event.gameMode false

lemma loads_concat (es : List (Event W)) (e : Event W) : loads (es ++ [e]) = e.loads (loads es) := by
  rw [loads, List.foldl_append]
  rfl

lemma gameMode_concat (es : List (Event W)) (e : Event W) :
    gameMode (es ++ [e]) = e.gameMode (gameMode es) := by
  rw [gameMode, List.foldl_append]
  rfl

end Process

/-! ## What `Load` assigns -/

/-- Starting the endpoint assigns no other global; an endpoint that it creates has all routes. -/
lemma startEndpoint_keeps (host : Host) (port seed password : Str) {g : Globals} (he : g.e = none) :
    let r := (startEndpoint host port seed password g).2
    r.playerManager = g.playerManager ∧ r.sampConfig = g.sampConfig ∧ r.io_service = g.io_service ∧
      ∀ e, r.e = some e → e.handler.Registered := by
  have hnone : ∀ e, g.e = some e → e.handler.Registered := by
    intro e h
    rw [he] at h
    cases h
  cases hn : stoi port with
  | error x =>
    rw [startEndpoint, hn, Prog.bind_error (Prog.lift_run ..)]
    exact ⟨rfl, rfl, rfl, hnone⟩
  | ok n =>
    cases hb : host.bind (toUInt32 n).toUInt16 with
    | error x =>
      rw [startEndpoint, hn, Prog.bind_ok (Prog.lift_run (.ok n) g), Endpoint.new_error hb,
        Prog.bind_error (Prog.lift_run ..)]
      exact ⟨rfl, rfl, rfl, hnone⟩
    | ok =>
      rw [startEndpoint, hn, Prog.bind_ok (Prog.lift_run (.ok n) g), Endpoint.new_ok hb,
        Prog.bind_ok (Prog.lift_run (.ok _) g), Prog.update_bind_run, Prog.update_bind_run]
      cases hv : stoul seed with
      | error x =>
        rw [Prog.bind_error (Prog.lift_run ..)]
        refine ⟨rfl, rfl, rfl, fun e h => ?_⟩
        cases h
        exact ⟨rfl, rfl⟩
      | ok v =>
        rw [Prog.bind_ok (Prog.lift_run (.ok v) _)]
        refine ⟨rfl, rfl, rfl, fun e h => ?_⟩
        cases h
        exact ⟨rfl, rfl⟩

/-- What `Load` assigns: always the player manager, the configuration once the log is open, and the
    service once there is a configuration file. An endpoint that it creates has all routes. -/
structure Assigns (host : Host) (g : Globals) : Prop where
  playerManager : g.playerManager = some {}
  sampConfig : g.sampConfig.isSome = host.logOpens
  io_service : g.io_service = host.opens
  registered : ∀ e, g.e = some e → e.handler.Registered
  created : g.io_service = false → g.e = none

lemma logOpens_ok {host : Host} {b : Bool} (h : host.openLog = .ok b) : host.logOpens = b := by
  rw [Host.logOpens, h]

lemma load_assigns (host : Host) : Assigns host (load host {}).2 := by
  have hnone : ∀ e, ({} : Globals).e = some e → e.handler.Registered := by
    intro e h
    cases h
  cases ho : host.openLog with
  | error x =>
    have hlog : host.logOpens = false := by rw [Host.logOpens, ho]
    have hopens : host.opens = false := by rw [Host.opens, hlog, Bool.false_and]
    rw [load, Prog.update_bind_run, ho]
    exact ⟨rfl, hlog.symm, hopens.symm, hnone, fun _ => rfl⟩
  | ok opened =>
    have hlog := logOpens_ok ho
    cases opened with
    | false =>
      have hopens : host.opens = false := by rw [Host.opens, hlog, Bool.false_and]
      rw [load, Prog.update_bind_run, ho]
      exact ⟨rfl, hlog.symm, hopens.symm, hnone, fun _ => rfl⟩
    | true =>
      cases hc : host.content "server.cfg".toList with
      | none =>
        have hopens : host.opens = false := by
          rw [Host.opens, hc]
          exact Bool.and_false _
        rw [load, Prog.update_bind_run, ho, hc]
        exact ⟨rfl, hlog.symm, hopens.symm, hnone, fun _ => rfl⟩
      | some text =>
        have hopens : host.opens = true := by
          rw [Host.opens, hlog, hc]
          rfl
        cases hp : passwordIn text with
        | none =>
          have hp' : Config.first "api_password".toList text = none := hp
          rw [load, Prog.update_bind_run, ho, hc]
          simp only [Prog.bind_run, Prog.lift_run, Config.get_load_first, hp']
          exact ⟨rfl, hlog.symm, hopens.symm, hnone, fun h => Bool.noConfusion h⟩
        | some password =>
          obtain ⟨hm, hconfig, hservice, hreg⟩ := startEndpoint_keeps host (portIn text) (seedIn text)
            password (g := loadedGlobals text) rfl
          have hglobals : (load host {}).2 =
              (startEndpoint host (portIn text) (seedIn text) password (loadedGlobals text)).2 := by
            rw [load_run ho hc hp, Prog.bind_run]
            rcases startEndpoint host (portIn text) (seedIn text) password (loadedGlobals text) with
              ⟨x | u, g⟩
            · rfl
            · rfl
          rw [hglobals]
          refine ⟨hm, ?_, ?_, hreg, fun h => ?_⟩
          · rw [hconfig, hlog]
            rfl
          · rw [hservice, hopens]
            rfl
          · rw [hservice] at h
            cases h

/-! ## What an event can do -/

namespace System

/-- There is nothing to run. -/
structure Vacant (s : System W) : Prop where
  accept : s.accept = .idle
  sessions : s.sessions = []

/-- Nothing runs, and there is nothing to run. -/
structure Idle (s : System W) : Prop extends s.Vacant where
  polling : s.polling = false

/-- When there is nothing to run, only commands can happen, and a tick can end. -/
lemma Vacant.moves {env : Env W} {s t : System W} {e : SampApi.Event W} (h : s.Vacant)
    (he : Moves env s e t) : (∃ c, e = .command c ∧ t = s.command env c) ∨
      s.polling = true ∧ e = .pollReturn ∧ t = { s with polling := false } := by
  have hsession : ∀ {i : Nat} {c : Session}, s.sessions[i]? ≠ some c := by
    intro i c hc
    rw [h.sessions] at hc
    cases hc
  have haccept : ∀ {op : Op Connection}, op ≠ .idle → s.accept ≠ op := by
    intro op hop ha
    exact hop (ha.symm.trans h.accept)
  cases he with
  | @command c _ => exact .inl ⟨c, rfl, rfl⟩
  | pollReturn hp _ => exact .inr ⟨hp, rfl, rfl⟩
  | accepted ha => exact absurd ha (haccept (by simp))
  | runAccept _ ha => exact absurd ha (haccept (by simp))
  | network hc _ => exact absurd hc hsession
  | readSome _ hc _ => exact absurd hc hsession
  | runRead _ hc _ _ => exact absurd hc hsession
  | throws _ hc _ _ => exact absurd hc hsession
  | runWrite _ hc _ => exact absurd hc hsession
  | runDeadline _ hc _ => exact absurd hc hsession

/-- In an idle system only commands can happen. -/
lemma Idle.moves {env : Env W} {s t : System W} {e : SampApi.Event W} (h : s.Idle)
    (he : Moves env s e t) : ∃ c, e = .command c ∧ t = s.command env c := by
  rcases h.toVacant.moves he with h' | ⟨hp, -, -⟩
  · exact h'
  · exact absurd (h.polling.symm.trans hp) Bool.false_ne_true

lemma Vacant.step {env : Env W} {s t : System W} {e : SampApi.Event W} (h : s.Vacant)
    (he : s.step env e = some t) : t.Vacant := by
  rcases h.moves (step_moves he) with ⟨c, -, rfl⟩ | ⟨-, -, rfl⟩
  · cases c <;> exact ⟨h.accept, h.sessions⟩
  · exact ⟨h.accept, h.sessions⟩

/-- The game mode is started and ended by the two callbacks only. -/
lemma step_ready {env : Env W} {s t : System W} {e : SampApi.Event W} (h : s.step env e = some t) :
    t.ready = (Process.Event.system e).gameMode s.ready := by
  cases step_moves h with
  | @command c _ => cases c <;> rfl
  | accepted _ => rfl
  | network _ _ => rfl
  | @runAccept result next _ _ => cases result <;> rfl
  | readSome _ _ _ => rfl
  | runRead _ _ _ _ => rfl
  | throws _ _ _ _ => rfl
  | runWrite _ _ _ => rfl
  | runDeadline _ _ _ => rfl
  | pollReturn _ _ => rfl

end System

namespace Process

/-- The events that can happen and have a defined effect, with the states that they lead to. -/
inductive Moves (env : Env W) (p : Process W) : Event W → Process W → Prop where
  | load {host} :
    p.system.polling = false →
    Moves env p (.load host) (p.load host)
  | unload :
    p.system.polling = false →
    Moves env p .unload p.unload
  | system {e s} :
    p.faults env (.system e) = false →
    p.system.step env e = some s →
    Moves env p (.system e) { p with system := s }

lemma step_moves {env : Env W} {p q : Process W} {e : Event W} (h : p.step env e = some q) :
    Moves env p e q := by
  rw [step.eq_def] at h
  split at h
  · cases h
  · rename_i hf
    cases e with
    | load host =>
      simp only [Option.ite_none_left_eq_some, Bool.not_eq_true, Option.some.injEq] at h
      exact h.2 ▸ .load h.1
    | unload =>
      simp only [Option.ite_none_left_eq_some, Bool.not_eq_true, Option.some.injEq] at h
      exact h.2 ▸ .unload h.1
    | system e =>
      obtain ⟨s, hs, rfl⟩ := Option.map_eq_some_iff.1 h
      exact .system (Bool.not_eq_true _ ▸ hf) hs

/-! ## Which pointers are valid -/

/-- Which pointers are valid after a history. -/
structure Follows (es : List (Event W)) (p : Process W) : Prop where
  playerManager : p.playerManager = !(loads es).isEmpty
  sampConfig : p.sampConfig = (loads es).any Host.logOpens
  io_service : p.io_service = (loads es).any Host.opens
  logger : ∀ host, (loads es).getLast? = some host →
    p.logger = if host.logOpens then .setUp else .new
  ready : p.system.ready = gameMode es
  idle : p.io_service = false → p.system.Idle

lemma initial_follows (world : W) : Follows [] (initial world) := by
  refine ⟨rfl, rfl, rfl, fun host h => ?_, rfl, fun _ => ⟨⟨rfl, rfl⟩, rfl⟩⟩
  cases h

lemma Follows.load {es : List (Event W)} {p : Process W} (h : Follows es p) (host : Host) :
    Follows (es ++ [.load host]) (p.load host) := by
  have hassigns := load_assigns host
  have hloads : loads (es ++ [.load host]) = loads es ++ [host] := loads_concat es _
  refine ⟨?_, ?_, ?_, fun host' hlast => ?_, ?_, fun hio => ?_⟩
  · show (p.playerManager || (SampApi.load host {}).2.playerManager.isSome) = _
    rw [hassigns.playerManager, hloads]
    cases loads es <;> simp
  · show (p.sampConfig || (SampApi.load host {}).2.sampConfig.isSome) = _
    rw [hassigns.sampConfig, hloads, h.sampConfig, List.any_append]
    simp
  · show (p.io_service || (SampApi.load host {}).2.io_service) = _
    rw [hassigns.io_service, hloads, h.io_service, List.any_append]
    simp
  · rw [hloads, List.getLast?_concat] at hlast
    cases hlast
    rfl
  · rw [gameMode_concat, ← h.ready]
    show (if _ then _ else _ : System W).ready = p.system.ready
    split <;> rfl
  · have hio : (p.io_service || (SampApi.load host {}).2.io_service) = false := hio
    rw [Bool.or_eq_false_iff] at hio
    have hidle := h.idle hio.1
    show (if (SampApi.load host {}).2.io_service then _ else _ : System W).Idle
    rw [hio.2]
    exact ⟨⟨hidle.accept, hidle.sessions⟩, hidle.polling⟩

lemma Follows.step {env : Env W} {es : List (Event W)} {p q : Process W} (h : Follows es p)
    {e : Event W} (he : p.step env e = some q) : Follows (es ++ [e]) q := by
  cases step_moves he with
  | load hp => exact h.load _
  | unload hp =>
    have hloads : loads (es ++ [.unload]) = [] := loads_concat es _
    refine ⟨?_, ?_, ?_, fun host hlast => ?_, ?_, fun _ => ⟨⟨rfl, rfl⟩, hp⟩⟩
    · rw [hloads]
      rfl
    · rw [hloads]
      rfl
    · rw [hloads]
      rfl
    · rw [hloads] at hlast
      cases hlast
    · rw [gameMode_concat]
      exact h.ready
  | @system e s hf hs =>
    have hloads : loads (es ++ [.system e]) = loads es := loads_concat es _
    refine ⟨hloads ▸ h.playerManager, hloads ▸ h.sampConfig, hloads ▸ h.io_service,
      fun host hlast => h.logger host (hloads ▸ hlast), ?_, fun hio => ?_⟩
    · rw [gameMode_concat, ← h.ready]
      exact System.step_ready hs
    · have hidle := h.idle hio
      refine ⟨hidle.toVacant.step hs, ?_⟩
      obtain ⟨c, rfl, rfl⟩ := hidle.moves (System.step_moves hs)
      cases c with
      | gameModeInit => exact hidle.polling
      | gameModeExit => exact hidle.polling
      | callback c => exact hidle.polling
      | game w => exact hidle.polling
      | processTick =>
        -- without a service the tick must have ended at once
        have hio : p.io_service = false := hio
        simp only [faults, hidle.polling, hio, Bool.not_false, Bool.true_and, Bool.and_true] at hf
        exact hf

lemma follows {env : Env W} {world : W} {es : List (Event W)} {p : Process W}
    (hr : run (step env) (initial world) es = some p) : Follows es p :=
  run_history (initial_follows world) (fun _ _ _ _ h he => h.step he) hr

/-- When there is a service, the other pointers are valid, and whether the log is set up is told by the
    last `Load`. -/
lemma Follows.valid {es : List (Event W)} {p : Process W} (h : Follows es p)
    (hio : p.io_service = true) :
    p.playerManager = true ∧ p.sampConfig = true ∧
      ∃ host, (loads es).getLast? = some host ∧ p.logger = if host.logOpens then .setUp else .new := by
  have hopens := h.io_service.symm.trans hio
  obtain ⟨host, hmem, hhost⟩ := List.any_eq_true.1 hopens
  have hne : loads es ≠ [] := List.ne_nil_of_mem hmem
  refine ⟨?_, ?_, (loads es).getLast hne, List.getLast?_eq_some_getLast hne,
    h.logger _ (List.getLast?_eq_some_getLast hne)⟩
  · rw [h.playerManager, Bool.not_eq_true', List.isEmpty_eq_false_iff]
    exact hne
  · rw [h.sampConfig]
    exact List.any_eq_true.2 ⟨host, hmem, (Bool.and_eq_true_iff.1 hhost).1⟩

/-- What makes an event use a pointer that is not valid, after a history. -/
def Mistaken (env : Env W) (es : List (Event W)) (p : Process W) : Event W → Prop
  | .unload => p.system.polling = false ∧ (loads es).any Host.opens = false
  | .system (.command (.callback _)) => p.system.polling = false ∧ loads es = []
  | .system (.command .processTick) =>
    p.system.polling = false ∧ gameMode es = true ∧ (loads es).any Host.opens = false
  | .system (.runRead i) =>
    (∃ s, p.system.step env (.runRead i) = some s ∧ s.plugin.log ≠ p.system.plugin.log) ∧
      ∃ host, (loads es).getLast? = some host ∧ host.logOpens = false
  | _ => False

/-- A handler of a read runs with valid pointers, except when it writes to the log and the last `Load`
    did not open it. -/
lemma Follows.faults_runRead {env : Env W} {es : List (Event W)} {p : Process W} (h : Follows es p)
    (i : Nat) :
    p.faults env (.system (.runRead i)) = true ↔ Mistaken env es p (.system (.runRead i)) := by
  cases hs : p.system.step env (.runRead i) with
  | none =>
    refine iff_of_false ?_ ?_
    · rw [faults, hs]
      exact Bool.false_ne_true
    · intro h
      obtain ⟨⟨s, hs', -⟩, -⟩ := h
      cases hs.symm.trans hs'
  | some s =>
    -- a handler runs only while the service polls
    have hio : p.io_service = true := by
      by_contra hio
      obtain ⟨c, h, -⟩ := (h.idle (Bool.eq_false_iff.2 hio)).moves (System.step_moves hs)
      cases h
    obtain ⟨hm, hconfig, host, hlast, hlogger⟩ := h.valid hio
    rw [faults, hs]
    show (!p.playerManager || !p.sampConfig ||
      (decide (s.plugin.log ≠ p.system.plugin.log) && decide (p.logger ≠ .setUp))) = true ↔ _
    rw [hm, hconfig, Bool.not_true, Bool.or_self, Bool.false_or, Bool.and_eq_true_iff,
      decide_eq_true_iff, decide_eq_true_iff, hlogger]
    refine and_congr ⟨fun h => ⟨s, hs, h⟩, fun h => ?_⟩ ⟨fun h => ⟨host, hlast, ?_⟩, fun h => ?_⟩
    · obtain ⟨s', hs', h⟩ := h
      cases hs.symm.trans hs'
      exact h
    · by_contra hopens
      rw [Bool.not_eq_false] at hopens
      rw [hopens] at h
      exact h rfl
    · obtain ⟨host', hlast', hopens⟩ := h
      cases hlast.symm.trans hlast'
      rw [hopens]
      decide

/-- After any history of calls and events, an event dereferences a pointer that is not valid exactly in
    these cases: `Unload`, or `ProcessTick` in a game mode, when no `Load` since the last `Unload` has
    opened the log and read the configuration; a callback of a player when there was no `Load` since
    the last `Unload`; and a handler of a read that writes to the log, when the last `Load` did not
    open it (an earlier one has started the service). -/
theorem faults_iff (env : Env W) (world : W) {es : List (Event W)} {p : Process W}
    (hr : run (step env) (initial world) es = some p) (e : Event W) :
    p.faults env e = true ↔ Mistaken env es p e := by
  have h := follows hr
  cases e with
  | load host => exact iff_of_false Bool.false_ne_true not_false
  | unload =>
    show (!p.system.polling && (!p.io_service || p.logger = .null || p.logger = .deleted)) = true ↔
      p.system.polling = false ∧ (loads es).any Host.opens = false
    rw [Bool.and_eq_true_iff, Bool.not_eq_true', ← h.io_service]
    refine and_congr_right fun _ => ?_
    cases hio : p.io_service with
    | false => exact iff_of_true rfl rfl
    | true =>
      obtain ⟨-, -, host, -, hlogger⟩ := h.valid hio
      rw [hlogger]
      split <;> exact iff_of_false (by decide) (by decide)
  | system e =>
    cases e with
    | command c =>
      cases c with
      | gameModeInit => exact iff_of_false Bool.false_ne_true not_false
      | gameModeExit => exact iff_of_false Bool.false_ne_true not_false
      | game w => exact iff_of_false Bool.false_ne_true not_false
      | callback c =>
        show (!p.system.polling && !p.playerManager) = true ↔ p.system.polling = false ∧ loads es = []
        rw [Bool.and_eq_true_iff, Bool.not_eq_true', h.playerManager, Bool.not_not,
          List.isEmpty_iff]
      | processTick =>
        show (!p.system.polling && p.system.ready && !p.io_service) = true ↔
          p.system.polling = false ∧ gameMode es = true ∧ (loads es).any Host.opens = false
        rw [Bool.and_eq_true_iff, Bool.and_eq_true_iff, Bool.not_eq_true', Bool.not_eq_true',
          ← h.ready, ← h.io_service, and_assoc]
    | runRead i => exact h.faults_runRead i
    | accepted result => exact iff_of_false Bool.false_ne_true not_false
    | network i e => exact iff_of_false Bool.false_ne_true not_false
    | runAccept next => exact iff_of_false Bool.false_ne_true not_false
    | readSome i n parsed => exact iff_of_false Bool.false_ne_true not_false
    | runWrite i => exact iff_of_false Bool.false_ne_true not_false
    | runDeadline i => exact iff_of_false Bool.false_ne_true not_false
    | pollReturn => exact iff_of_false Bool.false_ne_true not_false

/-- The plugin is loaded and a game mode is started, and then it is unloaded. -/
def Demo.unloaded : List (Event Demo.Game) := [
  .load (Demo.host true "api_password pw".toList), .system (.command .gameModeInit), .unload]

/-- The next tick has no service to poll. -/
theorem faults_iff_unloaded :
    ∃ p, run (step Demo.env) (initial {}) Demo.unloaded = some p ∧
      p.faults Demo.env (.system (.command .processTick)) = true := by
  have hr : ((run (step Demo.env) (initial {}) Demo.unloaded).map fun p => p.system.polling) =
      some false := by
    decide +kernel
  obtain ⟨p, hr, hp⟩ := Option.map_eq_some_iff.1 hr
  exact ⟨p, hr, (faults_iff Demo.env {} hr _).2 ⟨hp, rfl, rfl⟩⟩

/-! ## A plugin that is loaded -/

/-- The process with a system, when all pointers are valid. -/
def loaded (s : System W) : Process W where
  system := s
  playerManager := true
  sampConfig := true
  io_service := true
  logger := .setUp

lemma loaded_faults (env : Env W) (s : System W) :
    (loaded s).faults env .unload = false ∧ ∀ e, (loaded s).faults env (.system e) = false := by
  refine ⟨Bool.and_false _, fun e => ?_⟩
  cases e with
  | command c =>
    cases c with
    | callback c => exact Bool.and_false _
    | processTick => exact Bool.and_false _
    | gameModeInit => rfl
    | gameModeExit => rfl
    | game w => rfl
  | runRead i =>
    rw [faults]
    split
    · exact Bool.and_false _
    · rfl
  | accepted result => rfl
  | network i e => rfl
  | runAccept next => rfl
  | readSome i n parsed => rfl
  | runWrite i => rfl
  | runDeadline i => rfl
  | pollReturn => rfl

/-- The runs of a loaded process, until it is loaded again or unloaded, are those of its system. -/
lemma run_loaded (env : Env W) (s : System W) (es : List (SampApi.Event W)) :
    run (step env) (loaded s) (es.map .system) = (run (System.step env) s es).map loaded := by
  induction es generalizing s with
  | nil => rfl
  | cons e es ih =>
    have hstep : step env (loaded s) (.system e) = (System.step env s e).map loaded := by
      rw [step.eq_def, (loaded_faults env s).2 e]
      rfl
    rw [List.map_cons, run_cons, run_cons, hstep]
    cases System.step env s e with
    | none => rfl
    | some t => exact ih t

/-- The system that is served after `Load`: one that begins anew, in the same game mode, and goes on with
    the log and the record of what has happened. -/
def served (p : Process W) (g : Globals) (e : Endpoint) : System W :=
  { g.system e p.system.plugin.world with
    plugin := { (g.system e p.system.plugin.world).plugin with
      calls := p.system.plugin.calls
      handled := p.system.plugin.handled
      log := p.system.plugin.log ++ g.log
      readings := p.system.plugin.readings }
    ready := p.system.ready
    escaped := p.system.escaped }

lemma load_loaded {host : Host} {g : Globals} (hl : SampApi.load host {} = (.ok true, g)) :
    ∃ e, g.e = some e ∧ ∀ p : Process W, p.load host = loaded (p.served g e) := by
  have hassigns := load_assigns host
  have h := load_loads host
  rw [hl] at h hassigns
  generalize ho : (.ok true : Except Exn Bool) = outcome at h
  cases h with
  | logThrows _ => cases ho
  | logFails _ _ => cases ho
  | noFile _ _ _ => cases ho
  | noPassword _ _ _ _ => cases ho
  | throws _ _ _ _ => cases ho
  | @starts text password port v _ hopen hc hp _ hs he hconfig =>
    have hlog := logOpens_ok hopen
    have hservice : g.io_service = true := by
      rw [hassigns.io_service, Host.opens, hlog, hc]
      rfl
    have hm : g.playerManager = some {} := hassigns.playerManager
    have hconfig : g.sampConfig = _ := hconfig
    have he : g.e = _ := he
    refine ⟨_, he, fun p => ?_⟩
    simp only [load, hl, hm, hconfig, hservice, hlog, he, served, Globals.system,
      System.renew, loaded, if_true, Option.isSome_some, Option.getD_some, Option.map_some,
      Bool.or_true]

/-- Whenever the plugin is loaded (for the first time, again after `Unload`, or again without it), and
    `Load` returns `true`: until the next call of `Load` or `Unload`, what can happen in the process is
    what can happen in the system of the new endpoint, which begins anew but for the game mode; no event
    has an undefined effect, and neither has `Unload` whenever it is called. In a process that was not
    loaded before the system is the one that starts with what `Load` has left in the globals. -/
theorem load_serves (env : Env W) {host : Host} {g : Globals}
    (hl : SampApi.load host {} = (.ok true, g)) :
    ∃ e, g.e = some e ∧ (∀ world : W, (initial world).served g e = g.system e world) ∧
      ∀ p : Process W, p.system.polling = false → ∀ es,
        run (step env) p (.load host :: es.map .system) =
            (run (System.step env) (p.served g e) es).map loaded ∧
          ∀ s, run (System.step env) (p.served g e) es = some s →
            (∀ e', (loaded s).faults env (.system e') = false) ∧
              (loaded s).faults env .unload = false := by
  obtain ⟨e, he, hload⟩ := load_loaded (W := W) hl
  refine ⟨e, he, fun world => rfl, fun p hp es => ⟨?_, fun s _ => ?_⟩⟩
  · have hstep : step env p (.load host) = some (loaded (p.served g e)) := by
      rw [step.eq_def]
      show (if p.system.polling = true then none else some (p.load host)) = _
      rw [hp, hload]
      rfl
    rw [run_of_step (step env) hstep]
    exact run_loaded env _ es
  · exact ⟨(loaded_faults env s).2, (loaded_faults env s).1⟩

/-- The first `Load` of a process, and the game mode that is started then. -/
theorem load_serves_first :
    ∃ g e s, SampApi.load (Demo.host true "api_password pw".toList) {} = (.ok true, g) ∧ g.e = some e ∧
      run (step Demo.env) (initial {})
        (.load (Demo.host true "api_password pw".toList) :: [.command .gameModeInit].map .system) =
          some (loaded s) ∧
      run (System.step Demo.env) (g.system e {}) [.command .gameModeInit] = some s := by
  have hload : (SampApi.load (Demo.host true "api_password pw".toList) {}).1 = .ok true := by rfl
  generalize hl : SampApi.load (Demo.host true "api_password pw".toList) {} = r at hload
  obtain ⟨_, g⟩ := r
  cases hload
  obtain ⟨e, he, hfirst, h⟩ := load_serves Demo.env hl
  obtain ⟨hrun, -⟩ := h (initial {}) rfl [.command .gameModeInit]
  rw [hfirst {}] at hrun
  exact ⟨g, e, _, rfl, he, hrun, rfl⟩

/-! ## The registry -/

/-- What serves requests has all routes, and the registry has exactly the players who have connected
    since it was made and not disconnected since. -/
structure Known (p : Process W) : Prop where
  registered : p.system.plugin.handler.Registered ∨ p.system.Vacant
  tracked : p.playerManager = true → p.system.plugin.Tracked

lemma initial_known (world : W) : (initial world).Known :=
  ⟨.inr ⟨rfl, rfl⟩, fun h => (Bool.false_ne_true h).elim⟩

/-- A new registry knows nobody, and a new endpoint has all routes. -/
lemma Known.load {p : Process W} (h : p.Known) (host : Host) : (p.load host).Known := by
  have hassigns := load_assigns host
  cases hservice : (SampApi.load host {}).2.io_service with
  | false =>
    simp only [Process.load, hservice, hassigns.playerManager]
    refine ⟨h.registered.imp id fun hv => ⟨hv.accept, hv.sessions⟩, fun _ => ?_⟩
    exact initial_tracked rfl rfl
  | true =>
    simp only [Process.load, hservice, hassigns.playerManager]
    refine ⟨?_, fun _ => initial_tracked rfl rfl⟩
    cases he : (SampApi.load host {}).2.e with
    | none => exact .inr ⟨rfl, rfl⟩
    | some e => exact .inl (hassigns.registered e he)

/-- An event in the system keeps the registry in step with the callbacks. -/
lemma Known.system {env : Env W} {p : Process W} (h : p.Known) {e : SampApi.Event W} {s : System W}
    (he : p.system.step env e = some s) : ({ p with system := s } : Process W).Known := by
  rcases h.registered with hreg | hvacant
  · refine ⟨.inl ((System.step_settings env hreg he).registered hreg), fun hm => ?_⟩
    have htracked := h.tracked hm
    show s.plugin.Tracked
    rcases System.step_plugin env hreg he with h | h | ⟨i, h⟩
    · rw [h]
      exact htracked
    · rw [h]
      exact htracked.congr rfl rfl
    · rw [h]
      exact step_tracked env hreg htracked i
  · refine ⟨.inr (hvacant.step he), fun hm => ?_⟩
    have htracked := h.tracked hm
    show s.plugin.Tracked
    rcases hvacant.moves (System.step_moves he) with ⟨c, -, rfl⟩ | ⟨-, -, rfl⟩
    · cases c with
      | callback c =>
        cases c with
        | connect id => exact htracked.connect ⟨id, _⟩ rfl rfl
        | disconnect id => exact htracked.leave id
      | gameModeInit => exact htracked
      | gameModeExit => exact htracked
      | game w => exact htracked.congr rfl rfl
      | processTick => exact htracked
    · exact htracked

lemma Known.step {env : Env W} {p q : Process W} (h : p.Known) {e : Event W}
    (he : p.step env e = some q) : q.Known := by
  cases step_moves he with
  | load _ => exact h.load _
  | unload _ => exact ⟨.inr ⟨rfl, rfl⟩, fun hm => (Bool.false_ne_true hm).elim⟩
  | system _ hs => exact h.system hs

/-- After any history of calls and events, if `Load` was called since the last `Unload`, the registry has
    exactly the players whose last callback since the last `Load` was that they connected, each under
    its own id; callbacks that came from inside of a native count like others. A player who connected
    before the last `Load` is not known any more. -/
theorem registry_since_load (env : Env W) (world : W) {es : List (Event W)} {p : Process W}
    (hr : run (step env) (initial world) es = some p) (hl : loads es ≠ []) : p.system.plugin.Tracked := by
  have hknown : p.Known := run_invariant (fun _ _ _ he h => h.step he) hr (initial_known world)
  refine hknown.tracked ?_
  rw [(follows hr).playerManager, Bool.not_eq_true', List.isEmpty_eq_false_iff]
  exact hl

/-- Callbacks of the game server are added to the record. -/
lemma run_callbacks {env : Env W} {cs : List Callback} {p q : Process W}
    (hr : run (step env) p (cs.map fun c => .system (.command (.callback c))) = some q) :
    q.system.plugin.callbacks = p.system.plugin.callbacks ++ cs := by
  induction cs generalizing p with
  | nil =>
    cases hr
    exact (List.append_nil _).symm
  | cons c cs ih =>
    obtain ⟨u, hu, hr⟩ := (run_cons_some _).1 hr
    have hone : u.system.plugin.callbacks = p.system.plugin.callbacks ++ [c] := by
      cases step_moves hu with
      | system _ hs =>
        cases System.step_moves hs with
        | command _ => cases c <;> rfl
    rw [ih hr, hone, List.append_assoc]
    rfl

/-- The record begins anew with `Load`: if only callbacks have come since, it is the list of these. -/
lemma callbacks_since_load (env : Env W) {host : Host} {cs : List Callback} {p q : Process W}
    (hr : run (step env) p (.load host :: cs.map fun c => .system (.command (.callback c))) = some q) :
    q.system.plugin.callbacks = cs := by
  obtain ⟨u, hu, hr⟩ := (run_cons_some _).1 hr
  have hnew : u.system.plugin.callbacks = [] := by
    cases step_moves hu with
    | load _ =>
      rw [Process.load]
      cases (SampApi.load host {}).2.io_service <;> rfl
  rw [run_callbacks hr, hnew, List.nil_append]

/-- A player connects, the plugin is loaded again, and another player connects. -/
def Demo.reloaded : List (Event Demo.Game) := [
  .load (Demo.host true "api_password pw".toList), .system (.command (.callback (.connect 3))),
  .unload, .load (Demo.host true "api_password pw".toList),
  .system (.command (.callback (.connect 5)))]

/-- The registry knows the second player only. -/
theorem registry_since_load_again :
    ∃ p, run (step Demo.env) (initial {}) Demo.reloaded = some p ∧ p.system.plugin.Tracked ∧
      onlineIds p.system.plugin.callbacks = [5] := by
  have hr : ((run (step Demo.env) (initial {}) Demo.reloaded).map fun p =>
      onlineIds p.system.plugin.callbacks) = some [5] := by
    decide +kernel
  obtain ⟨p, hr, hp⟩ := Option.map_eq_some_iff.1 hr
  exact ⟨p, hr, registry_since_load Demo.env {} hr (List.cons_ne_nil _ _), hp⟩

end Process

end SampApi

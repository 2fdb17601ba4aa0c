import Mathlib.Data.Finset.Basic
import SampApi.Session

/-!
# The endpoint and its events

Model of `src/api/Endpoint.cpp`, `src/api/SessionManager.cpp` and the event loop of `src/api/Api.cpp`.
The state is that of the plugin, the accept operation of the endpoint, and all sessions there ever
were; `step` takes one event. There are three kinds of events:

* the game server calls the plugin (only outside of a tick, the server being a single thread) or
  changes its own state;
* clients, the network and the timers act, at any time;
* `io_service::poll`, while `ProcessTick` is in it, runs one handler that is ready, and returns when
  there is none left.

An exception of a handler leaves `poll` and `ProcessTick` with it; `escaped` records that.
-/

namespace SampApi
open Lib

variable {W : Type}

/-- The sessions kept alive (source `SessionManager`). -/
structure SessionManager where
  sessions : Finset Nat := ∅

/-- A client that connects, with the bytes it has sent already. -/
structure Connection where
  remote : Str
  bytes : Nat := 0
  deriving DecidableEq, Repr

/-- The endpoint in the surroundings of the plugin. -/
structure System (W : Type) where
  plugin : Plugin W
  ready : Bool := false
  polling : Bool := false
  accept : Op Connection := .idle
  sessions : List Session := []
  manager : SessionManager := {}
  escaped : List Exn := []

/-- What becomes of an accept operation when it is started. -/
inductive Accepting where
  | waits
  | connects (c : Connection)
  | fails
  deriving DecidableEq, Repr

/-- The accept operation right after its start. -/
def Accepting.op : Accepting → Op Connection
  | waits => .pending
  | connects c => .ready (some c)
  | fails => .ready none

/-- What the game server does: it calls the plugin, or changes its own state. -/
inductive Command (W : Type) where
  | gameModeInit
  | gameModeExit
  | callback (c : Callback)
  | game (w : W)
  | processTick

/-- The events of the system; sessions are named by their number. -/
inductive Event (W : Type) where
  | command (c : Command W)
  | accepted (result : Option Connection)
  | network (i : Nat) (e : Session.Event)
  | runAccept (next : Accepting)
  | readSome (i : Nat) (bytes : Nat) (parsed : Session.Parsed)
  | runRead (i : Nat)
  | runWrite (i : Nat)
  | runDeadline (i : Nat)
  | pollReturn

/-- A callback of the game (source `OnPlayerConnect` and `OnPlayerDisconnect`). -/
def Callback.run (env : Env W) : Callback → Act W Unit
  | connect id => onPlayerConnect env id
  | disconnect id => onPlayerDisconnect id

namespace System

/-- Accepts the next client (source `Endpoint::Listen`). -/
def listen (s : System W) (next : Accepting) : System W := { s with accept := next.op }

/-- Takes a session in and starts it (source `SessionManager::Start`). -/
def start (s : System W) (c : Session) : System W :=
  { s with
    sessions := s.sessions ++ [c.start]
    manager := ⟨insert s.sessions.length s.manager.sessions⟩ }

/-- Lets a session go and stops it (source `SessionManager::Stop`). -/
def stop (s : System W) (i : Nat) : System W :=
  { s with
    sessions := s.sessions.modify i Session.stop
    manager := ⟨s.manager.sessions.erase i⟩ }

/-- The completion handler of the accept. -/
def onAccept (env : Env W) (s : System W) (result : Option Connection) (next : Accepting) :
    System W :=
  match result with
  | some c =>
    let init_time := env.now s.plugin.readings
    let s := { s with plugin := { s.plugin with readings := s.plugin.readings + 1 } }
    (s.start { socket := .connected c.remote, unread := c.bytes, init_time }).listen next
  | none => s.listen next

/-- Changes a session. -/
def modify (s : System W) (i : Nat) (f : Session → Option Session) : Option (System W) := do
  let c ← s.sessions[i]?
  let c' ← f c
  return { s with sessions := s.sessions.set i c' }

/-- Runs the completion handler of a read. -/
def runRead (env : Env W) (s : System W) (i : Nat) : Option (System W) := do
  let c ← s.sessions[i]?
  let result ← c.read.take
  let c := { c with read := .done }
  match Session.onRead env c result s.plugin with
  | (.ok c', plugin) => return { s with plugin, sessions := s.sessions.set i c' }
  | (.error e, plugin) =>
    return { s with
      plugin
      sessions := s.sessions.set i c
      polling := false
      escaped := s.escaped ++ [e] }

/-- Runs the completion handler of a write. -/
def runWrite (s : System W) (i : Nat) : Option (System W) :=
  s.modify i fun c => c.write.take.map fun _ => { c with write := .done }.onWrite

/-- Runs the completion handler of a deadline. -/
def runDeadline (s : System W) (i : Nat) : Option (System W) :=
  s.modify i fun c => c.deadline.take.map fun result => { c with deadline := .done }.onDeadline result

/-- The system after the plugin was loaded: the endpoint waits for clients. -/
def initial (plugin : Plugin W) : System W := { plugin, accept := .pending }

/-- No handler can be run. -/
def quiescent (s : System W) : Bool := !s.accept.isReady && s.sessions.all fun c => !c.runnable

/-- One command. `ProcessTick` returns at once while there is no game mode, and otherwise polls. -/
def command (env : Env W) (s : System W) : Command W → System W
  | .gameModeInit => { s with ready := true }
  | .gameModeExit => { s with ready := false }
  | .callback c => { s with plugin := (c.run env s.plugin).2 }
  | .game w => { s with plugin := { s.plugin with world := w } }
  | .processTick => { s with polling := s.ready }

/-- One event; `none` if it cannot happen. -/
def step (env : Env W) (s : System W) : Event W → Option (System W)
  | .command c => if s.polling then none else some (s.command env c)
  | .accepted result => (s.accept.complete result).map fun accept => { s with accept }
  | .network i e => s.modify i fun c => c.step e
  | .runAccept next =>
    if s.polling then s.accept.take.map fun result => onAccept env s result next else none
  | .readSome i n parsed =>
    if s.polling then s.modify i fun c => c.readSome n parsed else none
  | .runRead i => if s.polling then s.runRead env i else none
  | .runWrite i => if s.polling then s.runWrite i else none
  | .runDeadline i => if s.polling then s.runDeadline i else none
  | .pollReturn =>
    if s.polling && s.quiescent then some { s with polling := false } else none

/-! ## What an event can do -/

lemma command_sessions (env : Env W) (s : System W) (c : Command W) :
    (s.command env c).sessions = s.sessions := by
  cases c <;> rfl

lemma command_manager (env : Env W) (s : System W) (c : Command W) :
    (s.command env c).manager = s.manager := by
  cases c <;> rfl

lemma command_escaped (env : Env W) (s : System W) (c : Command W) :
    (s.command env c).escaped = s.escaped := by
  cases c <;> rfl

/-- A session event changes one session that is there. -/
lemma modify_eq_some {s t : System W} {i : Nat} {f : Session → Option Session} :
    s.modify i f = some t ↔ ∃ c c', s.sessions[i]? = some c ∧ f c = some c' ∧
      t = { s with sessions := s.sessions.set i c' } := by
  constructor
  · intro h
    obtain ⟨c, hc, h⟩ := Option.bind_eq_some_iff.1 h
    obtain ⟨c', hc', h⟩ := Option.bind_eq_some_iff.1 h
    exact ⟨c, c', hc, hc', (Option.some.inj h).symm⟩
  · intro h
    obtain ⟨c, c', hc, hc', rfl⟩ := h
    rw [modify, hc]
    show (f c).bind _ = _
    rw [hc']
    rfl

/-- The events that can happen, with the states that they lead to. -/
inductive Moves (env : Env W) (s : System W) : Event W → System W → Prop where
  | command {c} :
    s.polling = false →
    Moves env s (.command c) (s.command env c)
  | accepted {result} :
    s.accept = .pending →
    Moves env s (.accepted result) { s with accept := .ready result }
  | network {i e c c'} :
    s.sessions[i]? = some c →
    c.step e = some c' →
    Moves env s (.network i e) { s with sessions := s.sessions.set i c' }
  | runAccept {result next} :
    s.polling = true →
    s.accept = .ready result →
    Moves env s (.runAccept next) (s.onAccept env result next)
  | readSome {i n parsed c c'} :
    s.polling = true →
    s.sessions[i]? = some c →
    c.readSome n parsed = some c' →
    Moves env s (.readSome i n parsed) { s with sessions := s.sessions.set i c' }
  | runRead {i c result c' plugin} :
    s.polling = true →
    s.sessions[i]? = some c →
    c.read = .ready result →
    Session.onRead env { c with read := .done } result s.plugin = (.ok c', plugin) →
    Moves env s (.runRead i) { s with plugin, sessions := s.sessions.set i c' }
  | throws {i c result x plugin} :
    s.polling = true →
    s.sessions[i]? = some c →
    c.read = .ready result →
    Session.onRead env { c with read := .done } result s.plugin = (.error x, plugin) →
    Moves env s (.runRead i) { s with
      plugin
      sessions := s.sessions.set i { c with read := .done }
      polling := false
      escaped := s.escaped ++ [x] }
  | runWrite {i c result} :
    s.polling = true →
    s.sessions[i]? = some c →
    c.write = .ready result →
    Moves env s (.runWrite i) { s with sessions := s.sessions.set i { c with write := .done }.onWrite }
  | runDeadline {i c result} :
    s.polling = true →
    s.sessions[i]? = some c →
    c.deadline = .ready result →
    Moves env s (.runDeadline i)
      { s with sessions := s.sessions.set i ({ c with deadline := .done }.onDeadline result) }
  | pollReturn :
    s.polling = true →
    s.quiescent = true →
    Moves env s .pollReturn { s with polling := false }

lemma runRead_moves {env : Env W} {s t : System W} {i : Nat} (hp : s.polling = true)
    (h : s.runRead env i = some t) : Moves env s (.runRead i) t := by
  simp only [runRead, Option.bind_eq_bind, Option.bind_eq_some_iff, Op.take_eq_some] at h
  obtain ⟨c, hc, result, hr, h⟩ := h
  generalize hx : Session.onRead env { c with read := .done } result s.plugin = x at h
  obtain ⟨x | c', plugin⟩ := x
  · cases h
    exact .throws hp hc hr hx
  · cases h
    exact .runRead hp hc hr hx

/-- What an event can do. -/
theorem step_moves {env : Env W} {s t : System W} {e : Event W} (h : s.step env e = some t) :
    Moves env s e t := by
  cases e with
  | command c =>
    obtain ⟨hp, h⟩ := Option.ite_none_left_eq_some.1 h
    cases h
    exact .command (Bool.eq_false_of_not_eq_true hp)
  | accepted result =>
    obtain ⟨op, hop, rfl⟩ := Option.map_eq_some_iff.1 h
    obtain ⟨ha, rfl⟩ := Op.complete_eq_some.1 hop
    exact .accepted ha
  | network i e =>
    obtain ⟨c, c', hc, hc', rfl⟩ := modify_eq_some.1 h
    exact .network hc hc'
  | runAccept next =>
    obtain ⟨hp, h⟩ := Option.ite_none_right_eq_some.1 h
    obtain ⟨result, hr, rfl⟩ := Option.map_eq_some_iff.1 h
    exact .runAccept hp (Op.take_eq_some.1 hr)
  | readSome i n parsed =>
    obtain ⟨hp, h⟩ := Option.ite_none_right_eq_some.1 h
    obtain ⟨c, c', hc, hc', rfl⟩ := modify_eq_some.1 h
    exact .readSome hp hc hc'
  | runRead i =>
    obtain ⟨hp, h⟩ := Option.ite_none_right_eq_some.1 h
    exact runRead_moves hp h
  | runWrite i =>
    obtain ⟨hp, h⟩ := Option.ite_none_right_eq_some.1 h
    obtain ⟨c, c', hc, hc', rfl⟩ := modify_eq_some.1 h
    obtain ⟨result, hw, rfl⟩ := Option.map_eq_some_iff.1 hc'
    exact .runWrite hp hc (Op.take_eq_some.1 hw)
  | runDeadline i =>
    obtain ⟨hp, h⟩ := Option.ite_none_right_eq_some.1 h
    obtain ⟨c, c', hc, hc', rfl⟩ := modify_eq_some.1 h
    obtain ⟨result, hd, rfl⟩ := Option.map_eq_some_iff.1 hc'
    exact .runDeadline hp hc (Op.take_eq_some.1 hd)
  | pollReturn =>
    obtain ⟨h', h⟩ := Option.ite_none_right_eq_some.1 h
    cases h
    obtain ⟨hp, hq⟩ := Bool.and_eq_true_iff.1 h'
    exact .pollReturn hp hq

/-- What an event is said to do it does. -/
theorem Moves.step {env : Env W} {s t : System W} {e : Event W} (h : Moves env s e t) :
    s.step env e = some t := by
  cases h with
  | command hp => exact if_neg (by rw [hp]; exact Bool.false_ne_true)
  | accepted ha =>
    rw [System.step, ha]
    rfl
  | network hc hc' => exact modify_eq_some.2 ⟨_, _, hc, hc', rfl⟩
  | runAccept hp ha =>
    rw [System.step, if_pos hp, ha]
    rfl
  | readSome hp hc hc' => exact (if_pos hp).trans (modify_eq_some.2 ⟨_, _, hc, hc', rfl⟩)
  | runRead hp hc hr hx =>
    rw [System.step, if_pos hp, System.runRead, hc]
    simp only [Option.bind_eq_bind, Option.bind_some, hr, Op.take, hx]
    rfl
  | throws hp hc hr hx =>
    rw [System.step, if_pos hp, System.runRead, hc]
    simp only [Option.bind_eq_bind, Option.bind_some, hr, Op.take, hx]
    rfl
  | runWrite hp hc hw =>
    refine (if_pos hp).trans (modify_eq_some.2 ⟨_, _, hc, ?_, rfl⟩)
    rw [hw]
    rfl
  | runDeadline hp hc hd =>
    refine (if_pos hp).trans (modify_eq_some.2 ⟨_, _, hc, ?_, rfl⟩)
    rw [hd]
    rfl
  | pollReturn hp hq => exact if_pos (Bool.and_eq_true_iff.2 ⟨hp, hq⟩)

end System
end SampApi

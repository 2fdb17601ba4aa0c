import SampApi.Demo
import SampApi.Server

/-!
# Exceptions that leave ProcessTick

The functions behind the routes throw `decode_exception` only, which is caught, and the handler itself
does not throw. What is left is `Session::CreateResponse`, which asks the socket for the address of
its client without an `error_code`: a request that was read completely is lost together with the whole
tick, if its client resets the connection, or the deadline closes the socket, before the handler of
the read is run. `no_escape_iff` says that this is all that can happen.
-/

namespace SampApi
open Lib

variable {W : Type}

namespace System

/-- No exception has left `ProcessTick`. -/
def NoEscape (s : System W) : Prop := s.escaped = []

/-- If the event runs the handler of a successful read, and the request is one that is answered by
    `CreateResponse`, then the socket still has a client. -/
def StillConnected (s : System W) : Event W → Prop
  | .runRead i => ∀ c, s.sessions[i]? = some c → c.read = .ready (some ()) →
    c.request.method.isHandled = true → c.socket.isConnected = true
  | _ => True

lemma stillConnected_runRead {s : System W} {i : Nat} {c : Session} (hc : s.sessions[i]? = some c) :
    s.StillConnected (.runRead i : Event W) ↔ (c.read = .ready (some ()) →
      c.request.method.isHandled = true → c.socket.isConnected = true) := by
  constructor
  · intro h
    exact h c hc
  · intro h d hd
    cases hc.symm.trans hd
    exact h

/-- The handler of a read throws exactly if it has a request for the handler and no client. -/
lemma onRead_throws (env : Env W) {c : Session} {result : Option Unit} {s : Plugin W}
    (hs : s.handler.Registered) (hread : c.read = .ready result) :
    (∃ x, (Session.onRead env { c with read := .done } result s).1 = .error x) ↔
      ¬ (c.read = .ready (some ()) →
        c.request.method.isHandled = true → c.socket.isConnected = true) := by
  rcases Session.onRead_cases env { c with read := .done } result hs with
    ⟨rfl, h⟩ | ⟨rfl, hm, h⟩ | ⟨rfl, hm, hconn, h⟩ | ⟨rfl, hm, remote, r, q, hconn, -, h⟩
  · rw [h]
    refine iff_of_false (by simp) (not_not_intro fun h' => ?_)
    cases hread.symm.trans h'
  · rw [h]
    refine iff_of_false (by simp) (not_not_intro fun _ hm' => ?_)
    cases hm.symm.trans hm'
  · rw [h]
    refine iff_of_true ⟨_, rfl⟩ fun hc => ?_
    have hconn' : c.socket.isConnected = false := hconn
    cases hconn'.symm.trans (hc hread hm)
  · rw [h]
    refine iff_of_false (by simp) (not_not_intro fun _ _ => ?_)
    have hconn' : c.socket = .connected remote := hconn
    rw [hconn']
    rfl

/-- As long as no exception has left `ProcessTick`, an event lets none out exactly if it does not run
    the handler of a read whose client is gone. -/
theorem step_noEscape (env : Env W) (s : System W) (e : Event W) (t : System W)
    (h : s.step env e = some t) (hs : s.plugin.handler.Registered) (hn : s.NoEscape) :
    t.NoEscape ↔ s.StillConnected e := by
  cases step_moves h with
  | command _ => exact iff_of_true ((command_escaped ..).trans hn) trivial
  | accepted _ => exact iff_of_true hn trivial
  | network _ _ => exact iff_of_true hn trivial
  | @runAccept result next _ _ =>
    refine iff_of_true ?_ trivial
    cases result with
    | none => exact hn
    | some c => exact hn
  | readSome _ _ _ => exact iff_of_true hn trivial
  | runRead _ hc hr hx =>
    rw [stillConnected_runRead hc]
    apply iff_of_true hn
    by_contra hthrows
    obtain ⟨x, h⟩ := (onRead_throws env hs hr).2 hthrows
    rw [hx] at h
    cases h
  | throws _ hc hr hx =>
    rw [stillConnected_runRead hc]
    -- the exception is recorded
    refine iff_of_false ?_ ((onRead_throws env hs hr).1 ⟨_, congrArg Prod.fst hx⟩)
    exact List.append_ne_nil_of_right_ne_nil _ (List.cons_ne_nil _ _)
  | runWrite _ _ _ => exact iff_of_true hn trivial
  | runDeadline _ _ _ => exact iff_of_true hn trivial
  | pollReturn _ _ => exact iff_of_true hn trivial

/-- In a run of the system no exception leaves `ProcessTick`, exactly if no handler of a successful
    read is run after its socket has lost the client. -/
theorem no_escape_iff (env : Env W) {p : Plugin W} (hp : p.handler.Registered)
    {es : List (Event W)} {t : System W} (hr : run (step env) (initial p) es = some t) :
    (∀ u, Visits (step env) (initial p) es u → u.NoEscape) ↔
      ∀ u e, Takes (step env) (initial p) es u e → u.StillConnected e := by
  refine visits_iff_takes (I := fun s => s.plugin.handler.Registered) ?_ (step_noEscape env) hr hp
    rfl
  intro s e u h hs
  exact (System.step_settings env hs h).registered hs

/-- A client sends a request, and resets the connection before the handler of the read is run. -/
def resetInTime : List (Event Demo.Game) := [
  .command .gameModeInit, .accepted (some ⟨Demo.remote, 40⟩), .command .processTick,
  .runAccept .waits, .readSome 0 40 (.complete Demo.visit), .network 0 .peerReset, .runRead 0]

lemma run_resetInTime :
    (run (step Demo.env) (initial (Demo.plugin {})) resetInTime).map System.escaped =
      some [.system_error] := by
  decide +kernel

/-- The exception of that handler leaves `ProcessTick`. -/
theorem resetInTime_escapes :
    ¬ ∀ u, Visits (step Demo.env) (initial (Demo.plugin {})) resetInTime u → u.NoEscape := by
  intro h
  obtain ⟨t, hr, ht⟩ := Option.map_eq_some_iff.1 run_resetInTime
  cases ht.symm.trans (h t (.last hr))

/-- So that handler is run without a client. -/
theorem no_escape_iff_resetInTime :
    (∀ u, Visits (step Demo.env) (initial (Demo.plugin {})) resetInTime u → u.NoEscape) ↔
      ∀ u e, Takes (step Demo.env) (initial (Demo.plugin {})) resetInTime u e →
        u.StillConnected e := by
  obtain ⟨t, hr, -⟩ := Option.map_eq_some_iff.1 run_resetInTime
  exact no_escape_iff Demo.env ⟨rfl, rfl⟩ hr

end System

end SampApi

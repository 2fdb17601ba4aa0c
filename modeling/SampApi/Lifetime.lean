import Mathlib.Data.Finset.Range
import SampApi.Demo
import SampApi.Server

/-!
# Lifetime of sessions

`SessionManager::Start` puts a session into the set of sessions, where nothing takes it out again:
`SessionManager::Stop` has no caller. So the manager holds all sessions there ever were
(`step_sound`), also those that are over. `finished_not_retained_iff` says exactly which runs do not
get to see that.
-/

namespace SampApi
open Lib

variable {W : Type}

namespace System

/-- The route table is filled, and the manager holds every session. -/
structure Sound (s : System W) : Prop where
  registered : s.plugin.handler.Registered
  managed : s.manager.sessions = Finset.range s.sessions.length

/-- Every session in the manager has an operation outstanding. -/
def NoneFinished (s : System W) : Prop :=
  ∀ i ∈ s.manager.sessions, ∃ c, s.sessions[i]? = some c ∧ c.outstanding = true

/-- The handler that the event runs, if it does, is not the last one of its session: the session goes
    on to write its response, or has another operation outstanding. -/
def GoesOn (s : System W) : Event W → Prop
  | .runRead i => ∀ c result, s.sessions[i]? = some c → c.read = .ready result →
    (result = some () ∧ (c.request.method.isHandled = false ∨ c.socket.isConnected = true)) ∨
      c.write.outstanding = true ∨ c.deadline.outstanding = true
  | .runWrite i => ∀ c, s.sessions[i]? = some c →
    c.read.outstanding = true ∨ c.deadline.outstanding = true
  | .runDeadline i => ∀ c, s.sessions[i]? = some c →
    c.read.outstanding = true ∨ c.write.outstanding = true
  | _ => True

/-! ## The manager holds every session -/

lemma initial_sound {p : Plugin W} (hp : p.handler.Registered) : (initial p).Sound := ⟨hp, rfl⟩

lemma set_managed {s : System W} (hs : s.manager.sessions = Finset.range s.sessions.length)
    (i : Nat) (c : Session) :
    s.manager.sessions = Finset.range (s.sessions.set i c).length := by
  rw [List.length_set]
  exact hs

/-- No event takes a session out of the manager. -/
theorem step_sound (env : Env W) (s : System W) (e : Event W) (t : System W)
    (h : s.step env e = some t) (hs : s.Sound) : t.Sound := by
  refine ⟨(System.step_settings env hs.registered h).registered hs.registered, ?_⟩
  cases step_moves h with
  | command _ =>
    rw [command_sessions, command_manager]
    exact hs.managed
  | accepted _ => exact hs.managed
  | network _ _ => exact set_managed hs.managed _ _
  | @runAccept result next _ _ =>
    cases result with
    | none => exact hs.managed
    | some c =>
      -- the new session is put in under the next number
      show insert s.sessions.length s.manager.sessions = Finset.range (s.sessions ++ [_]).length
      rw [hs.managed, List.length_append, List.length_singleton, Finset.range_add_one]
  | readSome _ _ _ => exact set_managed hs.managed _ _
  | runRead _ _ _ _ => exact set_managed hs.managed _ _
  | throws _ _ _ _ => exact set_managed hs.managed _ _
  | runWrite _ _ _ => exact set_managed hs.managed _ _
  | runDeadline _ _ _ => exact set_managed hs.managed _ _
  | pollReturn _ _ => exact hs.managed

/-! ## Which events leave all sessions with an operation -/

lemma noneFinished_iff {s : System W} (hs : s.Sound) :
    s.NoneFinished ↔ ∀ c ∈ s.sessions, c.outstanding = true := by
  constructor
  · intro h c hc
    obtain ⟨i, hi, rfl⟩ := List.mem_iff_getElem.1 hc
    obtain ⟨c, hc, ho⟩ := h i (by rw [hs.managed]; exact Finset.mem_range.2 hi)
    rw [List.getElem?_eq_getElem hi] at hc
    cases hc
    exact ho
  · intro h i hi
    rw [hs.managed] at hi
    have hlt := Finset.mem_range.1 hi
    exact ⟨_, List.getElem?_eq_getElem hlt, h _ (List.getElem_mem hlt)⟩

/-- When one session changes, what the others have does not. -/
lemma forall_set {l : List Session} {i : Nat} {c c' : Session} (hc : l[i]? = some c)
    (h : ∀ x ∈ l, x.outstanding = true) :
    (∀ x ∈ l.set i c', x.outstanding = true) ↔ c'.outstanding = true := by
  constructor
  · intro h'
    obtain ⟨hi, -⟩ := List.getElem?_eq_some_iff.1 hc
    exact h' c' (List.mem_set hi c')
  · intro h' x hx
    rcases List.mem_or_eq_of_mem_set hx with hx | rfl
    · exact h x hx
    · exact h'

end System

namespace Session

lemma outstanding_iff {c : Session} :
    c.outstanding = true ↔
      c.read.outstanding = true ∨ c.write.outstanding = true ∨ c.deadline.outstanding = true := by
  rw [outstanding, Bool.or_eq_true, Bool.or_eq_true, or_assoc]

/-- What the network and the timer do only completes operations. -/
lemma step_outstanding {c c' : Session} {e : Event} (h : c.step e = some c') :
    c'.outstanding = c.outstanding := by
  cases e with
  | received n =>
    obtain ⟨-, h⟩ := Option.ite_none_right_eq_some.1 h
    cases h
    rfl
  | peerReset =>
    obtain ⟨-, h⟩ := Option.ite_none_right_eq_some.1 h
    cases h
    simp [outstanding]
  | readFailed =>
    obtain ⟨op, hop, rfl⟩ := Option.map_eq_some_iff.1 h
    obtain ⟨hp, rfl⟩ := Op.complete_eq_some.1 hop
    simp [outstanding, hp]
  | written result =>
    obtain ⟨op, hop, rfl⟩ := Option.map_eq_some_iff.1 h
    obtain ⟨hp, rfl⟩ := Op.complete_eq_some.1 hop
    simp [outstanding, hp]
  | expire =>
    obtain ⟨op, hop, rfl⟩ := Option.map_eq_some_iff.1 h
    obtain ⟨hp, rfl⟩ := Op.complete_eq_some.1 hop
    simp [outstanding, hp]

lemma readSome_outstanding {c c' : Session} {n : Nat} {parsed : Parsed}
    (h : c.readSome n parsed = some c') : c'.outstanding = c.outstanding := by
  obtain ⟨⟨hp, -, -⟩, h⟩ := Option.ite_none_right_eq_some.1 h
  cases parsed with
  | more =>
    cases h
    rfl
  | bad =>
    cases h
    simp [outstanding, hp]
  | complete request =>
    cases h
    simp [outstanding, hp]

lemma onWrite_outstanding (c : Session) :
    { c with write := .done }.onWrite.outstanding = true ↔
      c.read.outstanding = true ∨ c.deadline.outstanding = true := by
  simp [outstanding_iff, onWrite]

lemma onDeadline_outstanding (c : Session) (result : Option Unit) :
    ({ c with deadline := .done }.onDeadline result).outstanding = true ↔
      c.read.outstanding = true ∨ c.write.outstanding = true := by
  cases result with
  | none => simp [outstanding_iff, onDeadline]
  | some _ => simp [outstanding_iff, onDeadline, close]

lemma startWrite_outstanding (c : Session) : c.startWrite.outstanding = true := by
  refine outstanding_iff.2 (.inr (.inl ?_))
  show (if c.socket.isConnected then Op.pending else Op.ready none).outstanding = true
  cases c.socket.isConnected <;> rfl

end Session

namespace System

/-- When one session changes, no session is finished exactly if that one is not. -/
lemma set_noneFinished {s t : System W} (hs : s.Sound) (ht : t.Sound) (h : s.NoneFinished) {i : Nat}
    {c c' : Session} (hc : s.sessions[i]? = some c) (hset : t.sessions = s.sessions.set i c') :
    t.NoneFinished ↔ c'.outstanding = true := by
  rw [noneFinished_iff ht, hset, forall_set hc ((noneFinished_iff hs).1 h)]

lemma goesOn_runRead {s : System W} {i : Nat} {c : Session} {result : Option Unit}
    (hc : s.sessions[i]? = some c) (hr : c.read = .ready result) :
    s.GoesOn (.runRead i : Event W) ↔
      (result = some () ∧ (c.request.method.isHandled = false ∨ c.socket.isConnected = true)) ∨
        c.write.outstanding = true ∨ c.deadline.outstanding = true := by
  constructor
  · intro hg
    exact hg c result hc hr
  · intro hg d result' hd hr'
    cases hc.symm.trans hd
    cases hr.symm.trans hr'
    exact hg

/-- What the handler of a read leaves outstanding. -/
lemma onRead_outstanding (env : Env W) (c : Session) (result : Option Unit) {s : Plugin W}
    (hs : s.handler.Registered) :
    match (Session.onRead env { c with read := .done } result s).1 with
    | .ok c' => c'.outstanding = true ↔
        (result = some () ∧ (c.request.method.isHandled = false ∨ c.socket.isConnected = true)) ∨
          c.write.outstanding = true ∨ c.deadline.outstanding = true
    | .error _ =>
        ¬ (result = some () ∧ (c.request.method.isHandled = false ∨ c.socket.isConnected = true)) := by
  rcases Session.onRead_cases env { c with read := .done } result hs with
    ⟨rfl, h⟩ | ⟨rfl, hm, h⟩ | ⟨rfl, hm, hconn, h⟩ | ⟨rfl, hm, remote, r, q, hconn, -, h⟩
  · -- the read failed, and nothing is started
    rw [h]
    simp [Session.outstanding_iff]
  · rw [h]
    exact iff_of_true (Session.startWrite_outstanding _) (.inl ⟨rfl, .inl hm⟩)
  · -- the session throws before it starts to write
    rw [h]
    have hm' : c.request.method.isHandled = true := hm
    have hconn' : c.socket.isConnected = false := hconn
    simp [hm', hconn']
  · rw [h]
    have hconn' : c.socket = .connected remote := hconn
    exact iff_of_true (Session.startWrite_outstanding _) (.inl ⟨rfl, .inr (by rw [hconn']; rfl)⟩)

lemma onAccept_noneFinished {env : Env W} {s : System W} (h : ∀ c ∈ s.sessions, c.outstanding = true)
    (result : Option Connection) (next : Accepting) :
    ∀ c ∈ (s.onAccept env result next).sessions, c.outstanding = true := by
  cases result with
  | none => exact h
  | some c =>
    intro x hx
    rcases List.mem_append.1 hx with hx | hx
    · exact h x hx
    · -- a new session has begun to read
      cases List.mem_singleton.1 hx
      rfl

/-- From a state in which no session is finished, an event leads to such a state exactly if the
    session that it runs a handler of goes on. -/
theorem step_noneFinished (env : Env W) (s : System W) (e : Event W) (t : System W)
    (h : s.step env e = some t) (hs : s.Sound) (hf : s.NoneFinished) :
    t.NoneFinished ↔ s.GoesOn e := by
  have ht := step_sound env s e t h hs
  have hall := (noneFinished_iff hs).1 hf
  -- what is asked of the session that the event runs a handler of
  have only : ∀ {i : Nat} {c : Session} (P : Session → Prop), s.sessions[i]? = some c →
      (P c ↔ ∀ d, s.sessions[i]? = some d → P d) := by
    intro i c P hc
    constructor
    · intro h d hd
      cases hc.symm.trans hd
      exact h
    · intro h
      exact h c hc
  cases step_moves h with
  | command _ =>
    refine iff_of_true ((noneFinished_iff ht).2 ?_) trivial
    rw [command_sessions]
    exact hall
  | accepted _ => exact iff_of_true hf trivial
  | network hc hc' =>
    refine iff_of_true ((set_noneFinished hs ht hf hc rfl).2 ?_) trivial
    rw [Session.step_outstanding hc']
    exact hall _ (List.mem_of_getElem? hc)
  | @runAccept result next _ _ =>
    exact iff_of_true ((noneFinished_iff ht).2 (onAccept_noneFinished hall result next)) trivial
  | readSome _ hc hc' =>
    refine iff_of_true ((set_noneFinished hs ht hf hc rfl).2 ?_) trivial
    rw [Session.readSome_outstanding hc']
    exact hall _ (List.mem_of_getElem? hc)
  | @runRead i c result _ _ _ hc hr hx =>
    have ho := onRead_outstanding env c result hs.registered
    rw [set_noneFinished hs ht hf hc rfl, goesOn_runRead hc hr]
    rw [hx] at ho
    exact ho
  | @throws i c result _ _ _ hc hr hx =>
    have hno := onRead_outstanding env c result hs.registered
    rw [hx] at hno
    rw [set_noneFinished hs ht hf hc rfl, goesOn_runRead hc hr, or_iff_right hno]
    simp [Session.outstanding_iff]
  | runWrite _ hc _ =>
    rw [set_noneFinished hs ht hf hc rfl, Session.onWrite_outstanding]
    exact only (fun d => d.read.outstanding = true ∨ d.deadline.outstanding = true) hc
  | runDeadline _ hc _ =>
    rw [set_noneFinished hs ht hf hc rfl, Session.onDeadline_outstanding]
    exact only (fun d => d.read.outstanding = true ∨ d.write.outstanding = true) hc
  | pollReturn _ _ => exact iff_of_true hf trivial

/-- In a run of the system every session in the manager has an operation outstanding at all times,
    exactly if no handler that is run is the last one of its session. -/
theorem finished_not_retained_iff (env : Env W) {p : Plugin W} (hp : p.handler.Registered)
    {es : List (Event W)} {t : System W} (hr : run (step env) (initial p) es = some t) :
    (∀ u, Visits (step env) (initial p) es u → u.NoneFinished) ↔
      ∀ u e, Takes (step env) (initial p) es u e → u.GoesOn e := by
  refine visits_iff_takes (I := Sound) (step_sound env) (step_noneFinished env) hr
    (initial_sound hp) ?_
  intro i hi
  cases hi

/-- One client is served: its request is read and answered, and its deadline is cancelled. -/
def exchange : List (Event Demo.Game) := [
  .command .gameModeInit, .accepted (some ⟨Demo.remote, 40⟩), .command .processTick,
  .runAccept .waits, .readSome 0 40 (.complete Demo.visit), .runRead 0,
  .network 0 (.written (some ())), .runWrite 0, .runDeadline 0, .pollReturn]

/-- What is left of the session after the exchange. -/
lemma run_exchange :
    (run (step Demo.env) (initial (Demo.plugin {})) exchange).map
      (fun t => (decide (0 ∈ t.manager.sessions), t.sessions[0]?.map Session.outstanding)) =
        some (true, some false) := by
  decide +kernel

/-- After the exchange the manager holds a session that is finished. -/
theorem exchange_retained :
    ¬ ∀ u, Visits (step Demo.env) (initial (Demo.plugin {})) exchange u → u.NoneFinished := by
  intro h
  obtain ⟨t, hr, ht⟩ := Option.map_eq_some_iff.1 run_exchange
  obtain ⟨hm, ho⟩ := Prod.mk.inj ht
  obtain ⟨c, hc, hlive⟩ := h t (.last hr) 0 (of_decide_eq_true hm)
  rw [hc] at ho
  cases hlive.symm.trans (Option.some.inj ho)

/-- So one of the handlers run in the exchange is the last one of its session. -/
theorem finished_not_retained_iff_exchange :
    (∀ u, Visits (step Demo.env) (initial (Demo.plugin {})) exchange u → u.NoneFinished) ↔
      ∀ u e, Takes (step Demo.env) (initial (Demo.plugin {})) exchange u e → u.GoesOn e := by
  obtain ⟨t, hr, -⟩ := Option.map_eq_some_iff.1 run_exchange
  exact finished_not_retained_iff Demo.env ⟨rfl, rfl⟩ hr

end System

end SampApi

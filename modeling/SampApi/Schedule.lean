import SampApi.Demo
import SampApi.Endpoint
import SampApi.Lib.Lanes

/-!
# The order of events

Which orders matter. The events of the endpoint lie on lanes: the plugin has one, its accept operation
has one, and each session has one. Events without a common lane are independent (`act_diamond`), and so
a run leads where another leads that has the same events in the same order on each lane
(`schedule_independent`).

What the handlers of the accepts and of the reads do depends on the clock, and those of the reads on the
registry and the game, so all of them lie on the lane of the plugin, as do the events of the game server
and the return of `io_service::poll`: in which order these stand does matter. Everything else that
happens to a session, and the completion of an accept, may come earlier or later: neither the network
nor `io_service::poll` decides anything by the order in which it serves different sessions, but for the
order in which those handlers are run.

Whether a handler is ready to be run and whether the endpoint polls does depend on other lanes, but
not what an event does; `act` leaves that part of `step` out.
-/

namespace SampApi
open Lib

variable {W : Type}

/-- The lanes. -/
inductive Lane where
  | plugin
  | accept
  | session (i : Nat)
  deriving DecidableEq, Repr

/-- The lanes of an event. -/
def Event.on : Lane → Event W → Bool
  | .plugin, .command _ => true
  | .plugin, .runAccept _ => true
  | .plugin, .runRead _ => true
  | .plugin, .pollReturn => true
  | .accept, .accepted _ => true
  | .accept, .runAccept _ => true
  | .session i, .network j _ => i = j
  | .session i, .readSome j _ _ => i = j
  | .session i, .runRead j => i = j
  | .session i, .runWrite j => i = j
  | .session i, .runDeadline j => i = j
  | _, _ => false

lemma Event.exists_on (e : Event W) : ∃ l, e.on l = true := by
  cases e with
  | command c => exact ⟨.plugin, rfl⟩
  | accepted result => exact ⟨.accept, rfl⟩
  | network i e => exact ⟨.session i, decide_eq_true rfl⟩
  | runAccept next => exact ⟨.plugin, rfl⟩
  | readSome i n parsed => exact ⟨.session i, decide_eq_true rfl⟩
  | runRead i => exact ⟨.plugin, rfl⟩
  | runWrite i => exact ⟨.session i, decide_eq_true rfl⟩
  | runDeadline i => exact ⟨.session i, decide_eq_true rfl⟩
  | pollReturn => exact ⟨.plugin, rfl⟩

namespace System

/-- What an event does, whether or not the endpoint polls. -/
def act (env : Env W) (s : System W) : Event W → Option (System W)
  | .command c => some (s.command env c)
  | .accepted result => (s.accept.complete result).map fun accept => { s with accept }
  | .network i e => s.modify i fun c => c.step e
  | .runAccept next => s.accept.take.map fun result => onAccept env s result next
  | .readSome i n parsed => s.modify i fun c => c.readSome n parsed
  | .runRead i => s.runRead env i
  | .runWrite i => s.runWrite i
  | .runDeadline i => s.runDeadline i
  | .pollReturn => some { s with polling := false }

lemma act_of_step (env : Env W) (s : System W) (e : Event W) (t : System W)
    (h : s.step env e = some t) : s.act env e = some t := by
  cases e with
  | command c => exact (Option.ite_none_left_eq_some.1 h).2
  | accepted result => exact h
  | network i e => exact h
  | runAccept next => exact (Option.ite_none_right_eq_some.1 h).2
  | readSome i n parsed => exact (Option.ite_none_right_eq_some.1 h).2
  | runRead i => exact (Option.ite_none_right_eq_some.1 h).2
  | runWrite i => exact (Option.ite_none_right_eq_some.1 h).2
  | runDeadline i => exact (Option.ite_none_right_eq_some.1 h).2
  | pollReturn => exact (Option.ite_none_right_eq_some.1 h).2

/-! ## Events of one session -/

/-- What an event does to its session, if that is all it does. -/
def inner : Event W → Option (Nat × (Session → Option Session))
  | .network i e => some (i, fun c => c.step e)
  | .readSome i n parsed => some (i, fun c => c.readSome n parsed)
  | .runWrite i => some (i, fun c => c.write.take.map fun _ => { c with write := .done }.onWrite)
  | .runDeadline i =>
    some (i, fun c => c.deadline.take.map fun result => { c with deadline := .done }.onDeadline result)
  | _ => none

variable {env : Env W} {s t u v : System W} {e e' : Event W} {i : Nat}
  {f : Session → Option Session}

lemma act_inner (h : inner e = some (i, f)) : s.act env e = s.modify i f := by
  cases e <;> cases h <;> rfl

lemma on_inner (h : inner e = some (i, f)) : e.on (.session i) = true := by
  cases e <;> cases h <;> exact decide_eq_true rfl

/-- What the handler of a read does, whether or not the endpoint polls. -/
lemma runRead_eq_some {i : Nat} (h : s.runRead env i = some t) :
    ∃ c result, s.sessions[i]? = some c ∧ c.read = .ready result ∧
      match Session.onRead env { c with read := .done } result s.plugin with
      | (.ok c', plugin) => t = { s with plugin, sessions := s.sessions.set i c' }
      | (.error x, plugin) => t = { s with
          plugin
          sessions := s.sessions.set i { c with read := .done }
          polling := false
          escaped := s.escaped ++ [x] } := by
  simp only [runRead, Option.bind_eq_bind, Option.bind_eq_some_iff, Op.take_eq_some] at h
  obtain ⟨c, hc, result, hr, h⟩ := h
  refine ⟨c, result, hc, hr, ?_⟩
  generalize Session.onRead env { c with read := .done } result s.plugin = x at h ⊢
  obtain ⟨x | c', plugin⟩ := x
  · exact (Option.some.inj h).symm
  · exact (Option.some.inj h).symm

/-- Other sessions are nothing to the handler of a read. -/
lemma runRead_diamond {i j : Nat} (hij : i ≠ j) {c : Session} (c' : Session)
    (hc : s.sessions[i]? = some c) (hv : s.runRead env j = some v) :
    ({ s with sessions := s.sessions.set i c' } : System W).runRead env j =
        some { v with sessions := v.sessions.set i c' } ∧ v.sessions[i]? = some c := by
  obtain ⟨d, result, hd, hr, h⟩ := runRead_eq_some hv
  have hset : ∀ d', (s.sessions.set j d')[i]? = some c := fun d' => by
    rw [List.getElem?_set_ne (Ne.symm hij)]
    exact hc
  have hd' : (s.sessions.set i c')[j]? = some d := by
    rw [List.getElem?_set_ne hij]
    exact hd
  rw [runRead]
  show ((s.sessions.set i c')[j]?.bind _ = _) ∧ _
  rw [hd', Option.bind_some, hr]
  show ((match Session.onRead env { d with read := .done } result s.plugin with
    | (.ok c', plugin) => _
    | (.error e, plugin) => _ : Option (System W)) = _) ∧ _
  generalize Session.onRead env { d with read := .done } result s.plugin = x at h ⊢
  obtain ⟨x | d', plugin⟩ := x
  · subst h
    refine ⟨?_, hset _⟩
    show some _ = some _
    rw [List.set_comm _ _ hij]
  · subst h
    refine ⟨?_, hset _⟩
    show some _ = some _
    rw [List.set_comm _ _ hij]

/-- An event of one session and an event that is not on its lane. -/
lemma modify_diamond (hu : s.modify i f = some u) (hv : s.act env e = some v)
    (ha : e.on (.session i) = false) : ∃ w, u.act env e = some w ∧ v.modify i f = some w := by
  obtain ⟨c, c', hc, hc', rfl⟩ := modify_eq_some.1 hu
  -- the session is still there, as it was
  have hback : ∀ w : System W, w.sessions[i]? = some c →
      w.modify i f = some { w with sessions := w.sessions.set i c' } := fun w hw =>
    modify_eq_some.2 ⟨c, c', hw, hc', rfl⟩
  cases he : inner e with
  | some jg =>
    obtain ⟨j, g⟩ := jg
    rw [act_inner he] at hv
    obtain ⟨d, d', hd, hd', rfl⟩ := modify_eq_some.1 hv
    have hij : i ≠ j := by
      rintro rfl
      cases ha.symm.trans (on_inner he)
    refine ⟨_, ?_, hback _ ?_⟩
    · rw [act_inner he]
      refine modify_eq_some.2 ⟨d, d', ?_, hd', ?_⟩
      · show (s.sessions.set i c')[j]? = some d
        rw [List.getElem?_set_ne hij]
        exact hd
      · show ({ s with sessions := (s.sessions.set j d').set i c' } : System W) =
          { s with sessions := (s.sessions.set i c').set j d' }
        rw [List.set_comm _ _ hij]
    · show (s.sessions.set j d')[i]? = some c
      rw [List.getElem?_set_ne (Ne.symm hij)]
      exact hc
  | none =>
    cases e with
    | command k =>
      cases hv
      refine ⟨_, ?_, hback _ ((congrArg (·[i]?) (command_sessions env s k)).trans hc)⟩
      cases k <;> rfl
    | accepted result =>
      obtain ⟨op, hop, rfl⟩ := Option.map_eq_some_iff.1 hv
      refine ⟨_, ?_, hback _ hc⟩
      exact Option.map_eq_some_iff.2 ⟨op, hop, rfl⟩
    | runAccept next =>
      obtain ⟨result, hr, rfl⟩ := Option.map_eq_some_iff.1 hv
      obtain ⟨hlt, -⟩ := List.getElem?_eq_some_iff.1 hc
      have hact : ({ s with sessions := s.sessions.set i c' } : System W).act env (.runAccept next) =
          some (onAccept env { s with sessions := s.sessions.set i c' } result next) :=
        Option.map_eq_some_iff.2 ⟨result, hr, rfl⟩
      refine ⟨_, hact, ?_⟩
      cases result with
      | none => exact hback _ hc
      | some conn =>
        rw [hback _ ((List.getElem?_append_left hlt).trans hc)]
        simp only [onAccept, start, listen, List.length_set, List.set_append_left _ _ hlt]
    | runRead j =>
      have hij : i ≠ j := of_decide_eq_false ha
      obtain ⟨hact, hc⟩ := runRead_diamond hij c' hc hv
      exact ⟨_, hact, hback _ hc⟩
    | pollReturn =>
      cases hv
      exact ⟨_, rfl, hback _ hc⟩
    | network j _ => cases he
    | readSome j _ _ => cases he
    | runWrite j => cases he
    | runDeadline j => cases he

/-! ## Events of the plugin and of the accept -/

/-- The accept operation is nothing to the handler of a read. -/
lemma runRead_accept {j : Nat} (op : Op Connection) (hv : s.runRead env j = some v) :
    ({ s with accept := op } : System W).runRead env j = some { v with accept := op } ∧
      v.accept = s.accept := by
  obtain ⟨d, result, hd, hr, h⟩ := runRead_eq_some hv
  rw [runRead]
  show (s.sessions[j]?.bind _ = _) ∧ _
  rw [hd, Option.bind_some, hr]
  show ((match Session.onRead env { d with read := .done } result s.plugin with
    | (.ok c', plugin) => _
    | (.error e, plugin) => _ : Option (System W)) = _) ∧ _
  generalize Session.onRead env { d with read := .done } result s.plugin = x at h ⊢
  obtain ⟨x | d', plugin⟩ := x
  · subst h
    exact ⟨rfl, rfl⟩
  · subst h
    exact ⟨rfl, rfl⟩

/-- The completion of an accept, and an event of the plugin that is not the handler of an accept. -/
lemma accepted_diamond {result : Option Connection} (hu : s.act env (.accepted result) = some u)
    (hv : s.act env e = some v) (hi : inner e = none) (ha : e.on .accept = false) :
    ∃ w, u.act env e = some w ∧ v.act env (.accepted result) = some w := by
  obtain ⟨op, hop, rfl⟩ := Option.map_eq_some_iff.1 hu
  cases e with
  | command k =>
    cases hv
    cases k <;> exact ⟨_, rfl, Option.map_eq_some_iff.2 ⟨op, hop, rfl⟩⟩
  | runRead j =>
    obtain ⟨hact, hv⟩ := runRead_accept op hv
    exact ⟨_, hact, Option.map_eq_some_iff.2 ⟨op, hv ▸ hop, rfl⟩⟩
  | pollReturn =>
    cases hv
    exact ⟨_, rfl, Option.map_eq_some_iff.2 ⟨op, hop, rfl⟩⟩
  | accepted _ => cases ha
  | runAccept _ => cases ha
  | network _ _ => cases hi
  | readSome _ _ _ => cases hi
  | runWrite _ => cases hi
  | runDeadline _ => cases hi

/-- An event of no session alone is one of the plugin, or the completion of an accept. -/
lemma on_plugin_or (h : inner e = none) :
    e.on .plugin = true ∨ ∃ result, e = .accepted result := by
  cases e with
  | accepted result => exact .inr ⟨result, rfl⟩
  | command _ => exact .inl rfl
  | runAccept _ => exact .inl rfl
  | runRead _ => exact .inl rfl
  | pollReturn => exact .inl rfl
  | network _ _ => cases h
  | readSome _ _ _ => cases h
  | runWrite _ => cases h
  | runDeadline _ => cases h

/-- Events without a common lane are independent. -/
theorem act_diamond (env : Env W) : Diamond (act env) Event.on := by
  intro s e e' u v ha hu hv
  have ha' : Apart Event.on e' e := fun l he' =>
    Bool.eq_false_of_not_eq_true fun he => by cases he'.symm.trans (ha l he)
  cases hi : inner e with
  | some g =>
    have hact : s.act env e = s.modify g.1 g.2 := act_inner hi
    obtain ⟨w, hw, hw'⟩ := modify_diamond (hact.symm.trans hu) hv (ha _ (on_inner hi))
    exact ⟨w, hw, (act_inner hi).trans hw'⟩
  | none =>
    cases hi' : inner e' with
    | some g =>
      have hact : s.act env e' = s.modify g.1 g.2 := act_inner hi'
      obtain ⟨w, hw, hw'⟩ := modify_diamond (hact.symm.trans hv) hu (ha' _ (on_inner hi'))
      exact ⟨w, (act_inner hi').trans hw', hw⟩
    | none =>
      rcases on_plugin_or hi with hp | ⟨result, rfl⟩
      · rcases on_plugin_or hi' with hp' | ⟨result, rfl⟩
        · cases hp'.symm.trans (ha _ hp)
        · obtain ⟨w, hw, hw'⟩ := accepted_diamond hv hu hi (ha' .accept rfl)
          exact ⟨w, hw', hw⟩
      · exact accepted_diamond hu hv hi' (ha .accept rfl)

/-- Two runs of the endpoint from one state that have the same events on the lane of the plugin (the
    events of the game server, the handlers of accepts and of reads, the return of the poll), the same
    events of the accept and for each session the same events, each of these in the same order, end in
    the same state: the plugin, the log, the native calls, the sessions and what they write are the same,
    however the events of different lanes were interleaved. -/
theorem schedule_independent (env : Env W) {s t t' : System W} {es fs : List (Event W)}
    (h : SameLanes Event.on es fs) (hr : run (step env) s es = some t)
    (hr' : run (step env) s fs = some t') : t = t' :=
  run_eq_of_lanes (act_diamond env) Event.exists_on h (run_mono (act_of_step env) hr)
    (run_mono (act_of_step env) hr')

/-- Two clients are accepted in one tick. -/
def twoClients : List (Event Demo.Game) := [
  .command .gameModeInit, .accepted (some ⟨Demo.remote, 40⟩), .command .processTick,
  .runAccept (.connects ⟨Demo.remote, 40⟩), .runAccept .waits]

/-- The first client is served before the second, or they are served by turns: that is the same. -/
theorem schedule_independent_twoClients :
    run (step Demo.env) (initial (Demo.plugin {})) (twoClients ++ [
      .readSome 0 40 (.complete Demo.visit), .runRead 0, .network 0 (.written (some ())), .runWrite 0,
      .readSome 1 40 (.complete Demo.put), .runRead 1, .network 1 .peerReset, .runWrite 1]) =
    run (step Demo.env) (initial (Demo.plugin {})) (twoClients ++ [
      .readSome 1 40 (.complete Demo.put), .readSome 0 40 (.complete Demo.visit), .runRead 0,
      .runRead 1, .network 1 .peerReset, .runWrite 1, .network 0 (.written (some ())), .runWrite 0]) := by
  generalize hes : twoClients ++ [Event.readSome 0 _ _, _, _, _, _, _, _, _] = es
  generalize hfs : twoClients ++ [Event.readSome 1 _ _, _, _, _, _, _, _, _] = fs
  have hlanes : SameLanes Event.on es fs := by
    subst hes hfs
    intro l
    rcases l with _ | _ | _ | _ | i <;> rfl
  have hr : (run (step Demo.env) (initial (Demo.plugin {})) es).isSome = true := by
    subst hes
    decide +kernel
  have hr' : (run (step Demo.env) (initial (Demo.plugin {})) fs).isSome = true := by
    subst hfs
    decide +kernel
  obtain ⟨t, hr⟩ := Option.isSome_iff_exists.1 hr
  obtain ⟨t', hr'⟩ := Option.isSome_iff_exists.1 hr'
  rw [hr, hr', schedule_independent Demo.env hlanes hr hr']

end System
end SampApi

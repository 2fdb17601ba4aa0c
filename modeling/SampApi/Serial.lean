import SampApi.Lifetime

/-!
# The server as if it did one thing at a time

`Server` is what the endpoint is for, without sockets, operations and ticks: clients come, callbacks
come, and a request of a client is answered at once. The endpoint refines it (`serializable`): in
whatever order the operations of any number of sessions complete and their handlers are run, there is
a history of the sequential server, in the order in which the handlers of the reads were run, that
leaves the plugin in the same state, and in which each client gets exactly what its session has
begun to write.
-/

namespace SampApi
open Lib

variable {W : Type}

/-! ## The sequential server -/

/-- A client: its address, and the time when it was accepted. -/
structure Client where
  remote : Str
  init_time : Int
  deriving DecidableEq, Repr

/-- The sequential server: the plugin, and the clients in the order in which they were accepted. -/
structure Server (W : Type) where
  plugin : Plugin W
  clients : List Client := []

namespace Server

/-- What the sequential server does. -/
inductive Item (W : Type) where
  | callback (c : Callback)
  | game (w : W)
  | accept (remote : Str)
  | request (i : Nat) (req : Request)

/-- One item, with the response if it is a request of a client. -/
def step (env : Env W) (v : Server W) : Item W → Server W × Option Response
  | .callback c => ({ v with plugin := (v.plugin.step env (.callback c)).1 }, none)
  | .game w => ({ v with plugin := (v.plugin.step env (.game w)).1 }, none)
  | .accept remote =>
    ({ plugin := v.plugin.tick
       clients := v.clients ++ [⟨remote, env.now v.plugin.readings⟩] }, none)
  | .request i req =>
    match v.clients[i]? with
    | some d =>
      let r := v.plugin.step env (.request req d.remote d.init_time)
      ({ v with plugin := r.1 }, r.2)
    | none => (v, none)

/-- The answer that an item is for a client: its request, and the response. -/
def answer (i : Nat) : Item W × Option Response → Option (Request × Response)
  | (.request j req, some r) => if j = i then some (req, r) else none
  | _ => none

/-- The answers to a client in a history. -/
def answers (i : Nat) (os : List (Item W × Option Response)) : List (Request × Response) :=
  os.filterMap (answer i)

lemma answers_append (i : Nat) (os os' : List (Item W × Option Response)) :
    answers i (os ++ os') = answers i os ++ answers i os' := List.filterMap_append

/-- A request is an answer to its own client, and to no other. -/
lemma answers_request (i j : Nat) (req : Request) (r : Response) :
    answers (W := W) j [(.request i req, some r)] = if i = j then [(req, r)] else [] := by
  by_cases h : i = j
  · simp [answers, answer, h]
  · simp [answers, answer, h]

lemma mem_answers {i : Nat} {req : Request} {r : Response}
    {os : List (Item W × Option Response)} :
    (req, r) ∈ answers i os ↔ (.request i req, some r) ∈ os := by
  rw [answers, List.mem_filterMap]
  constructor
  · intro h
    obtain ⟨⟨item, o⟩, hmem, h⟩ := h
    cases item with
    | request j req' =>
      cases o with
      | none => cases h
      | some r' =>
        obtain ⟨hj, h⟩ := Option.ite_none_right_eq_some.1 h
        cases h
        exact hj ▸ hmem
    | _ => cases h
  · intro h
    exact ⟨_, h, if_pos rfl⟩

/-- What a request is answered with is what the plugin makes of it. -/
lemma step_request_some {env : Env W} {v : Server W} {i : Nat} {req : Request} {r : Response}
    (h : (v.step env (.request i req)).2 = some r) :
    ∃ d, v.clients[i]? = some d ∧
      (v.plugin.step env (.request req d.remote d.init_time)).2 = some r := by
  rw [step] at h
  cases hd : v.clients[i]? with
  | none =>
    rw [hd] at h
    cases h
  | some d =>
    rw [hd] at h
    exact ⟨d, rfl, h⟩

/-- No item changes the settings of the plugin. -/
lemma step_settings (env : Env W) {v : Server W} (hv : v.plugin.handler.Registered) (e : Item W) :
    v.plugin.Settings (v.step env e).1.plugin := by
  cases e with
  | callback c => exact SampApi.step_settings env hv (.callback c)
  | game w => exact SampApi.step_settings env hv (.game w)
  | accept remote => exact ⟨rfl, rfl, rfl, rfl, rfl⟩
  | request i req =>
    rw [step]
    cases v.clients[i]? with
    | none => exact .refl _
    | some d => exact SampApi.step_settings env hv (.request req d.remote d.init_time)

/-- Along a history the settings of the plugin stay as they were at its start. -/
lemma after_settings (env : Env W) {p : Plugin W} (hp : p.handler.Registered) (es : List (Item W)) :
    p.Settings (after (step env) { plugin := p } es).plugin := by
  refine after_invariant (I := fun v : Server W => p.Settings v.plugin) (fun v e hv => ?_)
    (.refl p) es
  exact hv.trans (step_settings env (hv.registered hp) e)

/-- Clients stay where they are, and further ones come behind them. -/
lemma step_clients (env : Env W) (v : Server W) (e : Item W) :
    v.clients <+: (v.step env e).1.clients := by
  cases e with
  | callback c => exact List.prefix_rfl
  | game w => exact List.prefix_rfl
  | accept remote => exact List.prefix_append _ _
  | request i req =>
    rw [step]
    cases v.clients[i]? <;> exact List.prefix_rfl

/-- A client of a history is one of every longer history. -/
lemma after_clients (env : Env W) {v : Server W} {pre : List (Item W)} {i : Nat} {d : Client}
    (h : (after (step env) v pre).clients[i]? = some d) (suf : List (Item W)) :
    (after (step env) v (pre ++ suf)).clients[i]? = some d := by
  obtain ⟨cs, hcs⟩ : (after (step env) v pre).clients <+: (after (step env) v (pre ++ suf)).clients := by
    rw [after_append]
    exact after_invariant (I := fun u : Server W => _ <+: u.clients)
      (fun u e hu => hu.trans (step_clients env u e)) List.prefix_rfl suf
  obtain ⟨hlt, -⟩ := List.getElem?_eq_some_iff.1 h
  rw [← hcs, List.getElem?_append_left hlt]
  exact h

end Server

/-! ## Sessions and their clients -/

namespace Session

/-- What a session has begun to write, with the request that it answers. -/
def written (c : Session) : Option (Request × Response) :=
  if c.write = .idle then none else some (c.request, c.response)

/-- The session is that of the client; it has an empty response until it writes, and its read is over
    when it does. -/
structure Serves (c : Session) (d : Client) : Prop where
  init_time : c.init_time = d.init_time
  remote : ∀ remote, c.socket = .connected remote → remote = d.remote
  unanswered : c.write = .idle → c.response = {}
  answered : c.write ≠ .idle → c.read = .done

lemma written_idle {c : Session} (h : c.write = .idle) : c.written = none := if_pos h

lemma written_congr {c c' : Session} (hw : c'.write = .idle ↔ c.write = .idle)
    (hreq : c'.request = c.request) (hres : c'.response = c.response) : c'.written = c.written := by
  simp only [written, hw, hreq, hres]

lemma cancel_eq_idle {ρ : Type} (op : Op ρ) : op.cancel = .idle ↔ op = .idle := by
  cases op <;> simp [Op.cancel]

variable {c c' : Session} {d : Client}

/-- A session that reads or is about to has not begun to write. -/
lemma Serves.write_idle (h : c.Serves d) (hr : c.read ≠ .done) : c.write = .idle := by
  by_contra hw
  exact hr (h.answered hw)

/-- A closed or reset socket cancels what is pending, and nothing else of the session changes. -/
lemma Serves.disconnect (h : c.Serves d) {socket : Socket} (hs : socket.isConnected = false) :
    { c with socket, read := c.read.cancel, write := c.write.cancel }.Serves d := by
  refine ⟨h.init_time, fun remote hr => ?_, fun hw => ?_, fun hw => ?_⟩
  · have hr : socket = .connected remote := hr
    rw [hr] at hs
    cases hs
  · exact h.unanswered ((cancel_eq_idle _).1 hw)
  · show c.read.cancel = .done
    rw [h.answered fun he => hw ((cancel_eq_idle _).2 he)]
    rfl

/-- The network and the timer change nothing of what a session has written. -/
lemma Serves.step (h : c.Serves d) {e : Event} (he : c.step e = some c') :
    c'.Serves d ∧ c'.written = c.written := by
  cases e with
  | received n =>
    obtain ⟨-, he⟩ := Option.ite_none_right_eq_some.1 he
    cases he
    exact ⟨⟨h.init_time, h.remote, h.unanswered, h.answered⟩, rfl⟩
  | peerReset =>
    obtain ⟨-, he⟩ := Option.ite_none_right_eq_some.1 he
    cases he
    exact ⟨h.disconnect rfl, written_congr (cancel_eq_idle _) rfl rfl⟩
  | readFailed =>
    obtain ⟨op, hop, rfl⟩ := Option.map_eq_some_iff.1 he
    obtain ⟨hr, rfl⟩ := Op.complete_eq_some.1 hop
    refine ⟨⟨h.init_time, h.remote, h.unanswered, fun hw => ?_⟩, rfl⟩
    cases hr.symm.trans (h.answered hw)
  | written result =>
    obtain ⟨op, hop, rfl⟩ := Option.map_eq_some_iff.1 he
    obtain ⟨hw, rfl⟩ := Op.complete_eq_some.1 hop
    have hne : c.write ≠ .idle := by
      rw [hw]
      nofun
    refine ⟨⟨h.init_time, h.remote, nofun, fun _ => h.answered hne⟩, ?_⟩
    exact written_congr (iff_of_false nofun hne) rfl rfl
  | expire =>
    obtain ⟨op, -, rfl⟩ := Option.map_eq_some_iff.1 he
    exact ⟨⟨h.init_time, h.remote, h.unanswered, h.answered⟩, rfl⟩

/-- Reading changes the request of a session that has not written yet. -/
lemma Serves.readSome (h : c.Serves d) {n : Nat} {parsed : Parsed}
    (he : c.readSome n parsed = some c') : c'.Serves d ∧ c'.written = c.written := by
  obtain ⟨⟨hp, -, -⟩, he⟩ := Option.ite_none_right_eq_some.1 he
  have hw : c.write = .idle := h.write_idle (by rw [hp]; nofun)
  have hc' : c'.init_time = c.init_time ∧ c'.socket = c.socket ∧ c'.write = c.write ∧
      c'.response = c.response := by
    cases parsed <;> (cases he; exact ⟨rfl, rfl, rfl, rfl⟩)
  obtain ⟨htime, hsocket, hwrite, hresponse⟩ := hc'
  have hw' : c'.write = .idle := hwrite.trans hw
  refine ⟨⟨htime.trans h.init_time, fun remote hr => h.remote remote (hsocket.symm.trans hr), ?_, ?_⟩, ?_⟩
  · exact fun _ => hresponse.trans (h.unanswered hw)
  · exact fun hne => absurd hw' hne
  · rw [written_idle hw, written_idle hw']

/-- The handler of the write. -/
lemma Serves.onWrite (h : c.Serves d) {result : Option Unit} (hw : c.write = .ready result) :
    ({ c with write := .done } : Session).onWrite.Serves d ∧
      ({ c with write := .done } : Session).onWrite.written = c.written := by
  have hne : c.write ≠ .idle := by
    rw [hw]
    nofun
  refine ⟨⟨h.init_time, h.remote, nofun, fun _ => h.answered hne⟩, ?_⟩
  exact written_congr (iff_of_false nofun hne) rfl rfl

/-- The handler of the deadline. -/
lemma Serves.onDeadline (h : c.Serves d) (result : Option Unit) :
    (({ c with deadline := .done } : Session).onDeadline result).Serves d ∧
      (({ c with deadline := .done } : Session).onDeadline result).written = c.written := by
  have hd : ({ c with deadline := .done } : Session).Serves d :=
    ⟨h.init_time, h.remote, h.unanswered, h.answered⟩
  cases result with
  | none => exact ⟨hd, rfl⟩
  | some _ => exact ⟨hd.disconnect rfl, written_congr (cancel_eq_idle _) rfl rfl⟩

/-- A session whose read is over has still written what it had. -/
lemma Serves.over (h : c.Serves d) :
    ({ c with read := .done } : Session).Serves d ∧
      ({ c with read := .done } : Session).written = c.written :=
  ⟨⟨h.init_time, h.remote, h.unanswered, fun _ => rfl⟩, rfl⟩

/-- The handler of the read answers the request that the sequential server is given. -/
lemma Serves.onRead (env : Env W) (h : c.Serves d) {result : Option Unit} (hr : c.read = .ready result)
    {p q : Plugin W} (hp : p.handler.Registered)
    (he : onRead env { c with read := .done } result p = (.ok c', q)) :
    c'.Serves d ∧
      ((result = none ∧ q = p ∧ c'.written = none) ∨
      (result = some () ∧ (c.request.method.isHandled = false ∨ c.socket.isConnected = true) ∧
        ∃ r, p.step env (.request c.request d.remote d.init_time) = (q, some r) ∧
          c'.written = some (c.request, r))) := by
  have hw : c.write = .idle := h.write_idle (by rw [hr]; nofun)
  have hempty : c.response = {} := h.unanswered hw
  have hstart : ∀ c : Session, c.startWrite.write ≠ .idle := by
    intro c
    show (if c.socket.isConnected then _ else _ : Op Unit) ≠ .idle
    cases c.socket.isConnected <;> nofun
  rcases onRead_cases env { c with read := .done } result hp with
    ⟨rfl, h'⟩ | ⟨rfl, hm, h'⟩ | ⟨-, -, -, h'⟩ | ⟨rfl, hm, remote, r, q', hc, hr', h'⟩
  · cases he.symm.trans h'
    refine ⟨h.over.1, .inl ⟨rfl, rfl, ?_⟩⟩
    rw [h.over.2, written_idle hw]
  · cases he.symm.trans h'
    refine ⟨⟨h.init_time, h.remote, fun hi => absurd hi (hstart _), fun _ => rfl⟩, .inr ⟨rfl, .inl hm, ?_⟩⟩
    rcases step_request env c.request d.remote d.init_time hp with ⟨-, hq⟩ | ⟨hm', -⟩
    · refine ⟨_, hq, (if_neg (hstart _)).trans ?_⟩
      show some (c.request, ({ c.response with
        version := c.request.version, keep_alive := false } : Response).sized) = _
      rw [hempty]
      rfl
    · cases hm.symm.trans hm'
  · cases he.symm.trans h'
  · cases he.symm.trans h'
    have hc : c.socket = .connected remote := hc
    have hremote := h.remote remote hc
    subst hremote
    refine ⟨⟨h.init_time, h.remote, fun hi => absurd hi (hstart _), fun _ => rfl⟩,
      .inr ⟨rfl, .inr (by rw [hc]; rfl), r.sized, ?_, if_neg (hstart _)⟩⟩
    rcases step_request env c.request d.remote d.init_time hp with ⟨hm', -⟩ | ⟨-, r₂, q₂, hr₂, hq⟩
    · cases hm.symm.trans hm'
    · have hr' : Handler.handleRequest env c.request
          { c.response with version := c.request.version, keep_alive := false } d.remote c.init_time p =
            (.ok r, q) := hr'
      rw [hempty, h.init_time] at hr'
      cases hr₂.symm.trans hr'
      exact hq

end Session

/-! ## The endpoint -/

namespace System

/-- What an event does to the plugin. The handler of a read does nothing if the read has failed, or if
    the request is one for the handler and its client is gone. -/
def items (s : System W) : Event W → List (Server.Item W)
  | .command (.callback c) => [.callback c]
  | .command (.game w) => [.game w]
  | .runAccept _ =>
    match s.accept with
    | .ready (some c) => [.accept c.remote]
    | _ => []
  | .runRead i =>
    match s.sessions[i]? with
    | some c =>
      if c.read = .ready (some ()) ∧
          (c.request.method.isHandled = false ∨ c.socket.isConnected = true) then
        [.request i c.request]
      else []
    | none => []
  | _ => []

/-- The endpoint is in a state that the sequential server reaches by a history with these outputs. -/
structure Refines (s : System W) (v : Server W)
    (os : List (Server.Item W × Option Response)) : Prop where
  registered : s.plugin.handler.Registered
  plugin : v.plugin = s.plugin
  length : v.clients.length = s.sessions.length
  serves : ∀ (i : Nat) (c : Session), s.sessions[i]? = some c →
    ∃ d, v.clients[i]? = some d ∧ c.Serves d
  answers : ∀ i, Server.answers i os = (s.sessions[i]?.bind Session.written).toList

variable {env : Env W} {s t : System W} {v : Server W} {os : List (Server.Item W × Option Response)}

lemma initial_refines {p : Plugin W} (hp : p.handler.Registered) :
    (initial p).Refines { plugin := p } [] :=
  ⟨hp, rfl, rfl, fun _ _ hc => (nomatch hc), fun _ => rfl⟩

/-- A session changes, and the history goes on with what it has written since. -/
lemma Refines.set (h : s.Refines v os) {i : Nat} {c c' : Session} {d : Client}
    (hc : s.sessions[i]? = some c) (hd : v.clients[i]? = some d) (hserves : c'.Serves d)
    {plugin : Plugin W} (hp : plugin.handler.Registered)
    {os' : List (Server.Item W × Option Response)}
    (hself : Server.answers i os' = c'.written.toList)
    (hother : ∀ j, j ≠ i → Server.answers j os' = Server.answers j os) :
    { s with plugin, sessions := s.sessions.set i c' }.Refines { v with plugin } os' := by
  obtain ⟨hlt, -⟩ := List.getElem?_eq_some_iff.1 hc
  refine ⟨hp, rfl, h.length.trans (List.length_set ..).symm, fun j b hb => ?_, fun j => ?_⟩
  · have hb : (s.sessions.set i c')[j]? = some b := hb
    by_cases hij : i = j
    · subst hij
      rw [List.getElem?_set_self hlt] at hb
      cases hb
      exact ⟨d, hd, hserves⟩
    · rw [List.getElem?_set_ne hij] at hb
      exact h.serves j b hb
  · show _ = ((s.sessions.set i c')[j]?.bind Session.written).toList
    by_cases hij : i = j
    · subst hij
      rw [List.getElem?_set_self hlt]
      exact hself
    · rw [List.getElem?_set_ne hij, hother j (Ne.symm hij)]
      exact h.answers j

/-- A session changes, and the plugin does not. -/
lemma Refines.stay (h : s.Refines v os) {i : Nat} {c c' : Session} {d : Client}
    (hc : s.sessions[i]? = some c) (hd : v.clients[i]? = some d) (hserves : c'.Serves d)
    (hwritten : c'.written = c.written) :
    { s with sessions := s.sessions.set i c' }.Refines v os := by
  have hself : Server.answers i os = c'.written.toList := by
    rw [h.answers, hc, hwritten]
    rfl
  have hset := h.set hc hd hserves h.registered hself fun _ _ => rfl
  have hv : { v with plugin := s.plugin } = v := by rw [← h.plugin]
  exact hv ▸ hset

/-- A session changes, and has written what it had. -/
lemma Refines.keep (h : s.Refines v os) {i : Nat} {c c' : Session} (hc : s.sessions[i]? = some c)
    (hc' : ∀ d, c.Serves d → c'.Serves d ∧ c'.written = c.written) :
    { s with sessions := s.sessions.set i c' }.Refines v os := by
  obtain ⟨d, hd, hserves⟩ := h.serves i c hc
  obtain ⟨hserves', hwritten⟩ := hc' d hserves
  exact h.stay hc hd hserves' hwritten

/-- What is found behind a list is found in it, or is what was put behind it. -/
lemma getElem?_concat {α : Type} (xs : List α) (a : α) (i : Nat) :
    (xs ++ [a])[i]? = if i = xs.length then some a else xs[i]? := by
  rcases Nat.lt_trichotomy i xs.length with h | rfl | h
  · rw [List.getElem?_append_left h, if_neg (Nat.ne_of_lt h)]
  · rw [List.getElem?_concat_length, if_pos rfl]
  · rw [List.getElem?_append_right (Nat.le_of_lt h), if_neg (Nat.ne_of_gt h),
      List.getElem?_eq_none (Nat.le_of_lt h), List.getElem?_eq_none]
    rw [List.length_singleton]
    omega

/-- A client is accepted. -/
lemma Refines.accept (h : s.Refines v os) (conn : Connection) (next : Accepting) :
    (s.onAccept env (some conn) next).Refines (v.step env (.accept conn.remote)).1
      (os ++ [(.accept conn.remote, none)]) := by
  let c : Session :=
    { socket := .connected conn.remote, unread := conn.bytes, init_time := env.now s.plugin.readings }
  have hsessions : (s.onAccept env (some conn) next).sessions = s.sessions ++ [c.start] := rfl
  have hclients : (v.step env (.accept conn.remote)).1.clients =
    v.clients ++ [⟨conn.remote, env.now v.plugin.readings⟩] := rfl
  refine ⟨h.registered, ?_, ?_, fun j b hb => ?_, fun j => ?_⟩
  · show v.plugin.tick = s.plugin.tick
    rw [h.plugin]
  · rw [hclients, hsessions, List.length_append, List.length_append, h.length]
    rfl
  · rw [hsessions, getElem?_concat] at hb
    rw [hclients, getElem?_concat, h.length, h.plugin]
    by_cases hj : j = s.sessions.length
    · rw [if_pos hj] at hb ⊢
      cases hb
      refine ⟨_, rfl, ⟨rfl, fun remote hr => ?_, fun _ => rfl, fun hw => absurd rfl hw⟩⟩
      cases hr
      rfl
    · rw [if_neg hj] at hb ⊢
      exact h.serves j b hb
  · rw [Server.answers_append, h.answers, hsessions, getElem?_concat]
    by_cases hj : j = s.sessions.length
    · rw [if_pos hj, hj, List.getElem?_eq_none (Nat.le_refl _)]
      rfl
    · rw [if_neg hj]
      exact List.append_nil _

/-- The handler of a read is run. -/
lemma Refines.runRead (h : s.Refines v os) {i : Nat} {c c' : Session} {result : Option Unit}
    {plugin : Plugin W} (hc : s.sessions[i]? = some c) (hr : c.read = .ready result)
    (hx : Session.onRead env { c with read := .done } result s.plugin = (.ok c', plugin)) :
    { s with plugin, sessions := s.sessions.set i c' }.Refines
      (after (Server.step env) v (s.items (.runRead i)))
      (os ++ outputs (Server.step env) v (s.items (.runRead i))) := by
  obtain ⟨d, hd, hserves⟩ := h.serves i c hc
  have hnone : c.written = none :=
    Session.written_idle (hserves.write_idle (by rw [hr]; nofun))
  have hos : Server.answers i os = [] := by
    rw [h.answers, hc]
    exact congrArg Option.toList hnone
  obtain ⟨hserves', hcases⟩ := hserves.onRead env hr h.registered hx
  rcases hcases with ⟨rfl, rfl, hwritten⟩ | ⟨rfl, hcond, r, hstep, hwritten⟩
  · have hitems : s.items (.runRead i) = [] := by
      simp [items, hc, hr]
    rw [hitems]
    rw [after_nil, outputs, List.append_nil]
    exact h.stay hc hd hserves' (hwritten.trans hnone.symm)
  · have hitems : s.items (.runRead i) = [.request i c.request] := by
      simp only [items, hc, hr, true_and, if_pos hcond]
    have hv : v.step env (.request i c.request) = ({ v with plugin }, some r) := by
      rw [Server.step, hd]
      show ({ v with plugin := (v.plugin.step env _).1 }, (v.plugin.step env _).2) = _
      rw [h.plugin, hstep]
    rw [hitems, after_cons, after_nil, outputs, outputs, hv]
    refine h.set hc hd hserves' ?_ ?_ fun j hj => ?_
    · have hset := SampApi.step_settings env h.registered (.request c.request d.remote d.init_time)
      rw [hstep] at hset
      exact hset.registered h.registered
    · rw [Server.answers_append, hos, hwritten, Server.answers_request, if_pos rfl]
      rfl
    · rw [Server.answers_append, Server.answers_request, if_neg (Ne.symm hj), List.append_nil]

/-- The plugin is called, or the game changes. -/
lemma Refines.move (h : s.Refines v os) {item : Server.Item W} {i : Input W}
    (hitem : v.step env item = ({ v with plugin := (v.plugin.step env i).1 }, none)) :
    { s with plugin := (s.plugin.step env i).1 }.Refines (after (Server.step env) v [item])
      (os ++ outputs (Server.step env) v [item]) := by
  rw [after_cons, after_nil, outputs, outputs, hitem, h.plugin]
  refine ⟨(SampApi.step_settings env h.registered i).registered h.registered, rfl, h.length, h.serves,
    fun j => ?_⟩
  have hnone : Server.answers j [(item, (none : Option Response))] = [] := by
    cases item <;> rfl
  rw [Server.answers_append, hnone, List.append_nil]
  exact h.answers j

/-- An exception leaves the handler of a read, which has done nothing else. -/
lemma Refines.throws (h : s.Refines v os) {i : Nat} {c : Session} {result : Option Unit} {x : Exn}
    {plugin : Plugin W} (hc : s.sessions[i]? = some c)
    (hx : Session.onRead env { c with read := .done } result s.plugin = (.error x, plugin)) :
    s.items (.runRead i) = [] ∧
      { s with plugin, sessions := s.sessions.set i { c with read := .done } }.Refines v os := by
  rcases Session.onRead_cases env { c with read := .done } result h.registered with
    ⟨-, h'⟩ | ⟨-, -, h'⟩ | ⟨-, hm, hconn, h'⟩ | ⟨-, -, _, _, _, -, -, h'⟩
  · cases hx.symm.trans h'
  · cases hx.symm.trans h'
  · cases hx.symm.trans h'
    refine ⟨?_, h.keep hc fun d hd => hd.over⟩
    have hm : c.request.method.isHandled = true := hm
    have hconn : c.socket.isConnected = false := hconn
    simp [items, hc, hm, hconn]
  · cases hx.symm.trans h'

/-- One event of the endpoint is what the sequential server does for it. -/
theorem Refines.of_step (h : s.Refines v os) {e : Event W} (he : s.step env e = some t) :
    t.Refines (after (Server.step env) v (s.items e))
      (os ++ outputs (Server.step env) v (s.items e)) := by
  -- an event that is nothing to the sequential server
  have hnothing : ∀ {t : System W}, s.items e = [] → t.Refines v os →
      t.Refines (after (Server.step env) v (s.items e))
        (os ++ outputs (Server.step env) v (s.items e)) := by
    intro t hitems ht
    rw [hitems, after_nil, outputs, List.append_nil]
    exact ht
  cases step_moves he with
  | @command c _ =>
    cases c with
    | gameModeInit => exact hnothing rfl ⟨h.registered, h.plugin, h.length, h.serves, h.answers⟩
    | gameModeExit => exact hnothing rfl ⟨h.registered, h.plugin, h.length, h.serves, h.answers⟩
    | callback c =>
      have hitem : v.step env (.callback c) =
        ({ v with plugin := (v.plugin.step env (.callback c)).1 }, none) := rfl
      exact h.move hitem
    | game w =>
      have hitem : v.step env (.game w) =
        ({ v with plugin := (v.plugin.step env (.game w)).1 }, none) := rfl
      exact h.move hitem
    | processTick => exact hnothing rfl ⟨h.registered, h.plugin, h.length, h.serves, h.answers⟩
  | accepted _ => exact hnothing rfl ⟨h.registered, h.plugin, h.length, h.serves, h.answers⟩
  | network hc hc' => exact hnothing rfl (h.keep hc fun d hd => hd.step hc')
  | @runAccept result next _ ha =>
    cases result with
    | none =>
      refine hnothing ?_ ⟨h.registered, h.plugin, h.length, h.serves, h.answers⟩
      rw [items, ha]
    | some conn =>
      have hitems : s.items (.runAccept next) = [.accept conn.remote] := by rw [items, ha]
      rw [hitems]
      exact h.accept conn next
  | readSome _ hc hc' => exact hnothing rfl (h.keep hc fun d hd => hd.readSome hc')
  | runRead _ hc hr hx => exact h.runRead hc hr hx
  | throws _ hc _ hx =>
    obtain ⟨hitems, ht⟩ := h.throws hc hx
    exact hnothing hitems ⟨ht.registered, ht.plugin, ht.length, ht.serves, ht.answers⟩
  | runWrite _ hc hw => exact hnothing rfl (h.keep hc fun d hd => hd.onWrite hw)
  | runDeadline _ hc _ => exact hnothing rfl (h.keep hc fun d hd => hd.onDeadline _)
  | pollReturn _ _ => exact hnothing rfl ⟨h.registered, h.plugin, h.length, h.serves, h.answers⟩

/-- A run of the endpoint is a history of the sequential server. -/
theorem Refines.of_run {es : List (Event W)} (h : s.Refines v os)
    (hr : run (step env) s es = some t) :
    t.Refines (after (Server.step env) v (trace (step env) items s es))
      (os ++ outputs (Server.step env) v (trace (step env) items s es)) := by
  induction es generalizing s v os with
  | nil =>
    cases hr
    rw [trace, after_nil, outputs, List.append_nil]
    exact h
  | cons e es ih =>
    obtain ⟨u, hu, hr⟩ := (run_cons_some _).1 hr
    have ht := ih (h.of_step hu) hr
    rw [trace, hu]
    show t.Refines (after _ v (s.items e ++ trace _ _ u es))
      (os ++ outputs _ v (s.items e ++ trace _ _ u es))
    rw [after_append, outputs_append, ← List.append_assoc]
    exact ht

/-- The endpoint serves as if it did one thing at a time. In every run, whatever the order in which
    operations complete and handlers are run, the plugin is where the history of the sequential server
    leads it, in which each request stands where the handler of its read was run; and the answers to a
    client in that history are what its session has begun to write: none, or the one response to the
    request that it has read. -/
theorem serializable (env : Env W) {p : Plugin W} (hp : p.handler.Registered) {es : List (Event W)}
    {t : System W} (hr : run (step env) (initial p) es = some t) :
    let history := trace (step env) items (initial p) es
    (after (Server.step env) { plugin := p } history).plugin = t.plugin ∧
    ∀ i, Server.answers i (outputs (Server.step env) { plugin := p } history) =
      (t.sessions[i]?.bind Session.written).toList := by
  intro history
  have h := (initial_refines hp).of_run hr
  exact ⟨h.plugin, h.answers⟩

/-- What a session has begun to write was the answer of the sequential server, in its history. -/
lemma written_answer (env : Env W) {p : Plugin W} (hp : p.handler.Registered) {es : List (Event W)}
    {t : System W} (hr : run (step env) (initial p) es = some t) {i : Nat} {c : Session}
    (hc : t.sessions[i]? = some c) {req : Request} {r : Response} (hw : c.written = some (req, r)) :
    ∃ pre suf d, trace (step env) items (initial p) es = pre ++ .request i req :: suf ∧
      (after (Server.step env) { plugin := p } pre).clients[i]? = some d ∧
      ((after (Server.step env) { plugin := p } pre).plugin.step env
        (.request req d.remote d.init_time)).2 = some r := by
  have h := (initial_refines hp).of_run hr
  have hmem : (req, r) ∈ Server.answers i (outputs (Server.step env) { plugin := p }
      (trace (step env) items (initial p) es)) := by
    have ha : Server.answers i _ = _ := h.answers i
    rw [hc] at ha
    have ha : Server.answers i _ = (c.written).toList := ha
    rw [hw] at ha
    exact ha ▸ List.mem_singleton.2 rfl
  obtain ⟨pre, suf, eq, ho⟩ := (mem_outputs _).1 (Server.mem_answers.1 hmem)
  obtain ⟨d, hd, hstep⟩ := Server.step_request_some ho.symm
  exact ⟨pre, suf, d, eq, hd, hstep⟩

/-- In the exchange of one client, the client gets one answer, to its request. -/
theorem serializable_exchange :
    (Server.answers 0 (outputs (Server.step Demo.env) { plugin := Demo.plugin {} }
      (trace (step Demo.env) items (initial (Demo.plugin {})) exchange))).map Prod.fst =
        [Demo.visit] := by
  have hwritten : (run (step Demo.env) (initial (Demo.plugin {})) exchange).map
      (fun t => (t.sessions[0]?.bind Session.written).toList.map Prod.fst) = some [Demo.visit] := by
    decide +kernel
  obtain ⟨t, hr, ht⟩ := Option.map_eq_some_iff.1 hwritten
  rw [(serializable Demo.env ⟨rfl, rfl⟩ hr).2 0]
  exact ht

end System
end SampApi

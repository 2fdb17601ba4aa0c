import SampApi.Dispatch
import SampApi.Endpoint
import SampApi.Lib.Transition

/-!
# The plugin as a machine

What happens to the plugin, without the network: it gets callbacks and requests, and the game changes
its own state. `Plugin.step` takes such an `Input`, a request being processed by a session that has
read it; it is total, because no request makes the handler throw.

The settings of the plugin stay as they are (`step_settings`), and every event of the whole system
moves the plugin by one input or leaves it alone (`System.step_plugin`), so what holds along all runs
of this machine holds in the system.
-/

namespace SampApi
open Lib

variable {W : Type}

/-! ## Settings -/

/-- `q` has the settings of `p`: what decides about authorisation and dispatch. -/
structure Plugin.Settings (p q : Plugin W) : Prop where
  sampConfig : q.sampConfig = p.sampConfig
  password : q.handler.password = p.handler.password
  seed : q.handler.seed = p.handler.seed
  routes : q.handler.routes = p.handler.routes
  cache : q.handler.route.cache = p.handler.route.cache

namespace Plugin.Settings

lemma refl (p : Plugin W) : p.Settings p := ⟨rfl, rfl, rfl, rfl, rfl⟩

lemma trans {p q r : Plugin W} (h : p.Settings q) (h' : q.Settings r) : p.Settings r :=
  ⟨h'.sampConfig.trans h.sampConfig, h'.password.trans h.password, h'.seed.trans h.seed,
    h'.routes.trans h.routes, h'.cache.trans h.cache⟩

lemma of_keeps {p q : Plugin W} (h : p.Keeps q) : p.Settings q :=
  ⟨h.sampConfig, by rw [h.handler], by rw [h.handler], by rw [h.handler], by rw [h.handler]⟩

lemma registered {p q : Plugin W} (h : p.Settings q) (hp : p.handler.Registered) :
    q.handler.Registered := ⟨h.routes.trans hp.routes, h.cache.trans hp.cache⟩

/-- Plugins with the same settings authorise the same requests. -/
lemma authorized {p q : Plugin W} (h : p.Settings q) (env : Env W) (req : Request) (remote : Str) :
    Handler.authorized env q.sampConfig q.handler req remote =
      Handler.authorized env p.sampConfig p.handler req remote := by
  simp only [Handler.authorized, Handler.credible, h.sampConfig, h.password, h.seed]

end Plugin.Settings

lemma checked_settings (env : Env W) (s : Plugin W) (req : Request) (remote : Str) :
    s.Settings (s.checked env req remote) := ⟨rfl, rfl, rfl, rfl, rfl⟩

lemma errored_settings (env : Env W) (s : Plugin W) (req : Request) (remote u : Str) :
    s.Settings ((s.checked env req remote).withUrl u).tick := ⟨rfl, rfl, rfl, rfl, rfl⟩

lemma ended_settings (env : Env W) (f : RouteFunction) (req : Request) (m : Match) (s : Plugin W) :
    s.Settings (f.ended env req m s).tick := by
  have h := Plugin.Settings.of_keeps (f.ended_keeps env req m s)
  exact ⟨h.sampConfig, h.password, h.seed, h.routes, h.cache⟩

/-! ## Requests -/

namespace Handler

/-- How the handler ends a request: with a response, and in a plugin with the same settings. The
    response that it is given to fill does not matter to the plugin. -/
theorem handleRequest_ends (env : Env W) (req : Request) (remote : Str) (p : Int) {s : Plugin W}
    (hs : s.handler.Registered) :
    ∃ q, s.Settings q ∧ ∀ response, ∃ r,
      handleRequest env req response remote p s = (.ok r, q) := by
  have herrored := errored_settings env s req remote req.target
  cases ha : Handler.authorized env s.sampConfig s.handler req remote with
  | false =>
    refine ⟨_, herrored, fun response => ?_⟩
    exact ⟨_, handleRequest_unauthorised env req response remote p ha⟩
  | true =>
    cases hc : chosen req.target with
    | none =>
      refine ⟨_, herrored, fun response => ?_⟩
      exact ⟨_, handleRequest_unmatched env req response remote p hs ha hc⟩
    | some fm =>
      have hended := ended_settings env fm.1 req fm.2 (s.checked env req remote)
      refine ⟨_, (checked_settings env s req remote).trans hended, fun response => ?_⟩
      exact ⟨_, handleRequest_matched env req response remote p hs ha hc⟩

end Handler

/-- Requests with this method are handed to the handler. -/
def Verb.isHandled : Verb → Bool
  | get => true
  | post => true
  | other _ => false

lemma Verb.isHandled_eq_true {v : Verb} (h : v.isHandled = true) : v = .get ∨ v = .post := by
  cases v with
  | get => exact .inl rfl
  | post => exact .inr rfl
  | other name => cases h

lemma Verb.isHandled_eq_false {v : Verb} (h : v.isHandled = false) : ∃ name, v = .other name := by
  cases v with
  | get => cases h
  | post => cases h
  | other name => exact ⟨name, rfl⟩

namespace Session

/-- The session with the head of its response filled in. -/
def headed (c : Session) : Session :=
  { c with response := { c.response with version := c.request.version, keep_alive := false } }

/-- A request that the handler does not get is answered with an empty response. -/
lemma processRequest_other (env : Env W) {c : Session} (h : c.request.method.isHandled = false)
    (s : Plugin W) : processRequest env c s = (.ok c.headed.startWrite, s) := by
  obtain ⟨name, hm⟩ := Verb.isHandled_eq_false h
  rw [processRequest, hm]
  rfl

/-- A request for the handler has it fill the response. -/
lemma processRequest_eq (env : Env W) {c : Session} (h : c.request.method.isHandled = true) :
    processRequest env c = createResponse env c.headed >>= fun s => pure s.startWrite := by
  rcases Verb.isHandled_eq_true h with hm | hm
  · rw [processRequest, hm]
    rfl
  · rw [processRequest, hm]
    rfl

/-- A request for the handler is answered with its response, while the socket has a client. -/
lemma processRequest_handled (env : Env W) {c : Session} (h : c.request.method.isHandled = true)
    {remote : Str} (hc : c.socket = .connected remote) {s q : Plugin W} {r : Response}
    (hr : Handler.handleRequest env c.request c.headed.response remote c.init_time s = (.ok r, q)) :
    processRequest env c s = (.ok { c.headed with response := r }.startWrite, q) := by
  have hcreate : createResponse env c.headed s = (.ok { c.headed with response := r }, q) := by
    rw [createResponse]
    show (Prog.lift c.socket.remote_endpoint >>= _ : Act W Session) s = _
    rw [hc]
    show (Handler.handleRequest env c.request c.headed.response remote c.init_time >>= _ :
      Act W Session) s = _
    rw [Prog.bind_ok hr]
    rfl
  rw [processRequest_eq env h, Prog.bind_ok hcreate]
  rfl

/-- A request for the handler makes the session throw, if the socket has no client any more. -/
lemma processRequest_unconnected (env : Env W) {c : Session}
    (h : c.request.method.isHandled = true) (hc : c.socket.isConnected = false) (s : Plugin W) :
    processRequest env c s = (.error .system_error, s) := by
  have hcreate : createResponse env c.headed s = (.error .system_error, s) := by
    rw [createResponse]
    show (Prog.lift c.socket.remote_endpoint >>= _ : Act W Session) s = _
    rw [c.socket.remote_endpoint_throws hc]
    rfl
  rw [processRequest_eq env h, Prog.bind_error hcreate]

/-- How the handler of a read ends. -/
theorem onRead_cases (env : Env W) (c : Session) (result : Option Unit) {s : Plugin W}
    (hs : s.handler.Registered) :
    (result = none ∧ onRead env c result s = (.ok c, s)) ∨
    (result = some () ∧ c.request.method.isHandled = false ∧
      onRead env c result s = (.ok c.headed.startWrite, s)) ∨
    (result = some () ∧ c.request.method.isHandled = true ∧ c.socket.isConnected = false ∧
      onRead env c result s = (.error .system_error, s)) ∨
    (result = some () ∧ c.request.method.isHandled = true ∧ ∃ remote r q,
      c.socket = .connected remote ∧
      Handler.handleRequest env c.request c.headed.response remote c.init_time s = (.ok r, q) ∧
      onRead env c result s = (.ok { c.headed with response := r }.startWrite, q)) := by
  cases result with
  | none => exact .inl ⟨rfl, rfl⟩
  | some _ =>
    apply Or.inr
    cases hm : c.request.method.isHandled with
    | false => exact .inl ⟨rfl, rfl, processRequest_other env hm s⟩
    | true =>
      apply Or.inr
      cases hc : c.socket with
      | connected remote =>
        obtain ⟨q, -, hq⟩ := Handler.handleRequest_ends env c.request remote c.init_time hs
        obtain ⟨r, hr⟩ := hq c.headed.response
        exact .inr ⟨rfl, rfl, remote, r, q, rfl, hr, processRequest_handled env hm hc hr⟩
      | reset => exact .inl ⟨rfl, rfl, rfl, processRequest_unconnected env hm (by rw [hc]; rfl) s⟩
      | closed => exact .inl ⟨rfl, rfl, rfl, processRequest_unconnected env hm (by rw [hc]; rfl) s⟩

end Session

/-! ## The machine -/

/-- What happens to the plugin. -/
inductive Input (W : Type) where
  | callback (c : Callback)
  | game (w : W)
  | request (req : Request) (remote : Str) (init_time : Int)

/-- A session that has read a request. -/
def Session.reading (req : Request) (remote : Str) (init_time : Int) : Session where
  socket := .connected remote
  request := req
  init_time
  read := .done

/-- One input, with the response that is written, if there is one. -/
def Plugin.step (env : Env W) (s : Plugin W) : Input W → Plugin W × Option Response
  | .callback c => ((c.run env s).2, none)
  | .game w => ({ s with world := w }, none)
  | .request req remote init_time =>
    let r := Session.processRequest env (.reading req remote init_time) s
    (r.2, r.1.toOption.map Session.response)

lemma callback_settings (env : Env W) (s : Plugin W) (c : Callback) :
    s.Settings (c.run env s).2 := by
  cases c with
  | connect id => exact ⟨rfl, rfl, rfl, rfl, rfl⟩
  | disconnect id => exact ⟨rfl, rfl, rfl, rfl, rfl⟩

/-- The response that is written: the one of the session, with its length. -/
def Response.sized (r : Response) : Response := { r with content_length := some r.body.length }

/-- The head of a response to a request. -/
def Response.headFor (req : Request) : Response := { version := req.version, keep_alive := false }

/-- What a request does to the plugin, and what is written. -/
theorem step_request (env : Env W) (req : Request) (remote : Str) (t : Int) {s : Plugin W}
    (hs : s.handler.Registered) :
    (req.method.isHandled = false ∧
      s.step env (.request req remote t) = (s, some (Response.headFor req).sized)) ∨
    (req.method.isHandled = true ∧ ∃ r q,
      Handler.handleRequest env req (.headFor req) remote t s = (.ok r, q) ∧
        s.step env (.request req remote t) = (q, some r.sized)) := by
  cases hm : req.method.isHandled with
  | false =>
    refine .inl ⟨rfl, ?_⟩
    have h := Session.processRequest_other env
      (show (Session.reading req remote t).request.method.isHandled = false from hm) s
    rw [Plugin.step, h]
    rfl
  | true =>
    refine .inr ⟨rfl, ?_⟩
    obtain ⟨q, -, hq⟩ := Handler.handleRequest_ends env req remote t hs
    obtain ⟨r, hr⟩ := hq (.headFor req)
    refine ⟨r, q, hr, ?_⟩
    have h := Session.processRequest_handled env
      (show (Session.reading req remote t).request.method.isHandled = true from hm)
      (show (Session.reading req remote t).socket = .connected remote from rfl) hr
    rw [Plugin.step, h]
    rfl

/-- No input changes the settings. -/
theorem step_settings (env : Env W) {s : Plugin W} (hs : s.handler.Registered) (e : Input W) :
    s.Settings (s.step env e).1 := by
  cases e with
  | callback c => exact callback_settings env s c
  | game w => exact ⟨rfl, rfl, rfl, rfl, rfl⟩
  | request req remote t =>
    rcases step_request env req remote t hs with ⟨-, h⟩ | ⟨-, r, q, hr, h⟩
    · rw [h]
      exact .refl s
    · obtain ⟨q', hset, hq'⟩ := Handler.handleRequest_ends env req remote t hs
      obtain ⟨r', hr'⟩ := hq' (.headFor req)
      cases hr.symm.trans hr'
      rw [h]
      exact hset

/-! ## What a request can do to the game and the registry -/

/-- The plugins have the same game, native calls, callbacks and registry. -/
structure Plugin.Alike (s t : Plugin W) : Prop where
  world : t.world = s.world
  calls : t.calls = s.calls
  callbacks : t.callbacks = s.callbacks
  playerManager : t.playerManager = s.playerManager

lemma Plugin.Alike.refl (s : Plugin W) : s.Alike s := ⟨rfl, rfl, rfl, rfl⟩

/-- The basic actions of the functions behind routes are all that a request can do to the game and the
    registry: what they relate, a request relates. -/
theorem step_request_frame {env : Env W} {R : Plugin W → Plugin W → Prop}
    (trans : ∀ s t u, R s t → R t u → R s u)
    (hB : ∀ {α : Type} {c : Act W α}, Basic env c → Prog.Frame R c)
    (hA : ∀ {s t}, s.Alike t → R s t) (req : Request) (remote : Str) (time : Int) {s : Plugin W}
    (hs : s.handler.Registered) : R s (s.step env (.request req remote time)).1 := by
  have refl : ∀ s, R s s := fun s => hA (.refl s)
  rcases step_request env req remote time hs with ⟨-, h⟩ | ⟨-, r, q, hr, h⟩
  · rw [h]
    exact refl s
  · rw [h]
    cases ha : Handler.authorized env s.sampConfig s.handler req remote with
    | false =>
      cases hr.symm.trans (handleRequest_unauthorised env req _ remote time ha)
      exact hA ⟨rfl, rfl, rfl, rfl⟩
    | true =>
      cases hc : chosen req.target with
      | none =>
        cases hr.symm.trans (handleRequest_unmatched env req _ remote time hs ha hc)
        exact hA ⟨rfl, rfl, rfl, rfl⟩
      | some fm =>
        cases hr.symm.trans (handleRequest_matched env req _ remote time hs ha hc)
        have hB' : ∀ {α : Type} {c : Prog (Plugin W × fm.1.Data) Exn α}, BasicOn env c →
            Prog.Frame (fun x y => R x.1 y.1) c := by
          intro α c hc x
          cases hc with
          | plugin hc => exact hB hc x.1
          | decode body => exact refl x.1
          | get => exact refl x.1
          | set f => exact refl x.1
        have hf : R (s.checked env req remote)
            (fm.1.outcome env req fm.2 (s.checked env req remote)).2.1 :=
          (fm.1.handler_built req fm.2).frame (R := fun x y => R x.1 y.1) (fun x => refl x.1)
            (fun {x y z} h h' => trans x.1 y.1 z.1 h h') hB' (s.checked env req remote, _)
        have hchecked : R s (s.checked env req remote) := hA ⟨rfl, rfl, rfl, rfl⟩
        exact trans _ _ _ (trans _ _ _ hchecked hf) (hA ⟨rfl, rfl, rfl, rfl⟩)

/-! ## The machine in the system -/

/-- The handler of a read moves the plugin by the request that was read, if it moves it at all. -/
lemma onRead_plugin (env : Env W) (c : Session) (result : Option Unit) {s : Plugin W}
    (hs : s.handler.Registered) :
    (Session.onRead env c result s).2 = s ∨
      ∃ remote, (Session.onRead env c result s).2 =
        (s.step env (.request c.request remote c.init_time)).1 := by
  rcases Session.onRead_cases env c result hs with
    ⟨-, h⟩ | ⟨-, -, h⟩ | ⟨-, -, -, h⟩ | ⟨-, hm, remote, r, q, -, hr, h⟩
  · exact .inl (by rw [h])
  · exact .inl (by rw [h])
  · exact .inl (by rw [h])
  · refine .inr ⟨remote, ?_⟩
    rw [h]
    -- the machine hands the same request to the handler, with another response to fill
    obtain ⟨q', -, hq'⟩ := Handler.handleRequest_ends env c.request remote c.init_time hs
    obtain ⟨_, hr'⟩ := hq' c.headed.response
    cases hr.symm.trans hr'
    rcases step_request env c.request remote c.init_time hs with ⟨hm', -⟩ | ⟨-, r₂, q₂, hr₂, h₂⟩
    · cases hm.symm.trans hm'
    · obtain ⟨_, hr₂'⟩ := hq' (.headFor c.request)
      cases hr₂.symm.trans hr₂'
      rw [h₂]

/-- An event of the system moves the plugin by one input, reads the clock, or leaves it alone. -/
theorem System.step_plugin (env : Env W) {s t : System W} {e : Event W}
    (hs : s.plugin.handler.Registered) (h : s.step env e = some t) :
    t.plugin = s.plugin ∨ t.plugin = s.plugin.tick ∨
      ∃ i, t.plugin = (s.plugin.step env i).1 := by
  have hread : ∀ {c : Session} {result x plugin}, Session.onRead env c result s.plugin = (x, plugin) →
      plugin = s.plugin ∨ plugin = s.plugin.tick ∨ ∃ i, plugin = (s.plugin.step env i).1 := by
    intro c result x plugin hx
    have h := onRead_plugin env c result hs
    rw [hx] at h
    rcases h with h | ⟨remote, h⟩
    · exact .inl h
    · exact .inr (.inr ⟨_, h⟩)
  cases System.step_moves h with
  | @command c _ =>
    cases c with
    | gameModeInit => exact .inl rfl
    | gameModeExit => exact .inl rfl
    | callback c => exact .inr (.inr ⟨.callback c, rfl⟩)
    | game w => exact .inr (.inr ⟨.game w, rfl⟩)
    | processTick => exact .inl rfl
  | accepted _ => exact .inl rfl
  | network _ _ => exact .inl rfl
  | @runAccept result next _ _ =>
    cases result with
    | none => exact .inl rfl
    | some c => exact .inr (.inl rfl)
  | readSome _ _ _ => exact .inl rfl
  | runRead _ _ _ hx => exact hread hx
  | throws _ _ _ hx => exact hread hx
  | runWrite _ _ _ => exact .inl rfl
  | runDeadline _ _ _ => exact .inl rfl
  | pollReturn _ _ => exact .inl rfl

/-- No event changes the settings. -/
lemma System.step_settings (env : Env W) {s t : System W} {e : Event W}
    (hs : s.plugin.handler.Registered) (h : s.step env e = some t) :
    s.plugin.Settings t.plugin := by
  rcases System.step_plugin env hs h with h | h | ⟨i, h⟩
  · rw [h]
    exact .refl _
  · rw [h]
    exact ⟨rfl, rfl, rfl, rfl, rfl⟩
  · rw [h]
    exact SampApi.step_settings env hs i

/-- Along a run of the system the settings stay as they were at its start. -/
lemma System.run_settings (env : Env W) {s t : System W} {es : List (Event W)}
    (hs : s.plugin.handler.Registered) (h : run (System.step env) s es = some t) :
    s.plugin.Settings t.plugin := by
  refine run_invariant (I := fun u => s.plugin.Settings u.plugin) (fun u e v huv hu => ?_) h
    (.refl s.plugin)
  exact hu.trans (System.step_settings env (hu.registered hs) huv)

end SampApi

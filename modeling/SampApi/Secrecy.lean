import SampApi.Authentic
import SampApi.Exports
import SampApi.Purge

/-!
# What clients learn of the configuration

The password, the seed and the whitelist show in nothing but the verdicts on requests. What there is to
see of a plugin is all of it but its settings and its log (`Plugin.shown`). Plugins that show the same
and give the same verdict on a request do the same with it, and still show the same; so of two
configuration files that give the same verdicts on the requests of a run, one can stand for the other
and no client can tell (`same_verdicts`). In particular, as long as no request is permitted, the answers
do not depend on the password, not even in part.

The log is another matter: a line about wrong credentials has the hash in it that was required.
-/

namespace SampApi
open Lib Prog

variable {W T : Type}

/-! ## Plugins -/

/-- What there is to see of a plugin: not its settings, and not its log. -/
def Plugin.shown (s : Plugin W) : Plugin W :=
  { s with
    log := []
    sampConfig := {}
    handler := { s.handler with password := none, seed := none } }

/-- The plugins show the same. -/
def Plugin.LooksLike (s t : Plugin W) : Prop := s.shown = t.shown

namespace Plugin.LooksLike

variable {s t : Plugin W}

lemma world (h : s.LooksLike t) : s.world = t.world := by
  have h : s.shown.world = t.shown.world := congrArg Plugin.world h
  exact h

lemma readings (h : s.LooksLike t) : s.readings = t.readings := by
  have h : s.shown.readings = t.shown.readings := congrArg Plugin.readings h
  exact h

lemma playerManager (h : s.LooksLike t) : s.playerManager = t.playerManager := by
  have h : s.shown.playerManager = t.shown.playerManager := congrArg Plugin.playerManager h
  exact h

lemma registered (h : s.LooksLike t) (hs : s.handler.Registered) : t.handler.Registered := by
  have hroutes : s.handler.routes = t.handler.routes := congrArg (fun p => p.handler.routes) h
  have hcache : s.handler.route.cache = t.handler.route.cache :=
    congrArg (fun p => p.handler.route.cache) h
  exact ⟨hroutes.symm.trans hs.routes, hcache.symm.trans hs.cache⟩

lemma called (h : s.LooksLike t) (env : Env W) (n : Native) :
    (s.called env n).LooksLike (t.called env n) :=
  congrArg (fun p => Plugin.called env p n) h

lemma leave (h : s.LooksLike t) (id : UInt32) : (s.leave id).LooksLike (t.leave id) :=
  congrArg (fun p => Plugin.leave p id) h

lemma leaveAll (h : s.LooksLike t) (ids : List UInt32) :
    (s.leaveAll ids).LooksLike (t.leaveAll ids) := by
  induction ids generalizing s t with
  | nil => exact h
  | cons id ids ih => exact ih (h.leave id)

lemma tick (h : s.LooksLike t) : s.tick.LooksLike t.tick := congrArg Plugin.tick h

lemma withUrl (h : s.LooksLike t) (u : Str) : (s.withUrl u).LooksLike (t.withUrl u) :=
  congrArg (fun p => Plugin.withUrl p u) h

lemma game (h : s.LooksLike t) (w : W) :
    ({ s with world := w } : Plugin W).LooksLike { t with world := w } := by
  have h : ({ s.shown with world := w } : Plugin W) = { t.shown with world := w } :=
    congrArg (fun p : Plugin W => { p with world := w }) h
  exact h

/-- The check of a request shows in the url only. -/
lemma checked (h : s.LooksLike t) (env : Env W) (req : Request) (remote : Str) :
    (s.checked env req remote).LooksLike (t.checked env req remote) := h.withUrl req.target

lemma elapsed (h : s.LooksLike t) (env : Env W) (p : Int) : s.elapsed env p = t.elapsed env p := by
  rw [Plugin.elapsed, Plugin.elapsed, h.readings]

end Plugin.LooksLike

/-! ## Requests -/

lemma Basic.looksLike {env : Env W} {α : Type} {c : Act W α} (h : Basic env c) :
    Rel Plugin.LooksLike Eq c c := by
  intro s t hst
  cases h with
  | native n =>
    refine ⟨?_, hst.called env n⟩
    show (env.game n s.world).1 = (env.game n t.world).1
    rw [hst.world]
  | disconnect pl =>
    rw [pl.disconnect_run, pl.disconnect_run, hst.world]
    exact ⟨rfl, (hst.called env (.Kick pl.id)).leaveAll _⟩
  | ban pl =>
    rw [pl.ban_run, pl.ban_run, hst.world]
    exact ⟨rfl, (hst.called env (.Ban pl.id)).leaveAll _⟩
  | players =>
    refine ⟨?_, hst⟩
    show s.playerManager.players.toList env.order = t.playerManager.players.toList env.order
    rw [hst.playerManager]
  | log line => exact ⟨rfl, hst⟩

/-- The plugins show the same, and the messages are the same. -/
def LooksLikeWith (x y : Plugin W × T) : Prop := x.1.LooksLike y.1 ∧ x.2 = y.2

lemma BasicOn.looksLike {env : Env W} {α : Type} {c : Prog (Plugin W × T) Exn α}
    (h : BasicOn env c) : Rel LooksLikeWith Eq c c := by
  intro x y hxy
  cases h with
  | plugin h =>
    obtain ⟨hr, hs⟩ := h.looksLike x.1 y.1 hxy.1
    exact ⟨hr, hs, hxy.2⟩
  | decode body => exact ⟨agree_refl (fun _ => rfl) _, hxy⟩
  | get => exact ⟨hxy.2, hxy⟩
  | set f => exact ⟨rfl, hxy.1, congrArg f hxy.2⟩

/-- A function behind a route ends alike in plugins that show the same. -/
lemma RouteFunction.outcome_looksLike (env : Env W) (f : RouteFunction) (req : Request) (m : Match)
    {s t : Plugin W} (h : s.LooksLike t) :
    (f.outcome env req m s).1 = (f.outcome env req m t).1 ∧
      (f.outcome env req m s).2.2 = (f.outcome env req m t).2.2 ∧
      (f.ended env req m s).LooksLike (f.ended env req m t) := by
  obtain ⟨hr, ⟨hs, hd⟩⟩ :=
    (f.handler_built req m).rel (fun h => BasicOn.looksLike h) (s, _) (t, _) ⟨h, rfl⟩
  have ho : (f.outcome env req m s).1 = (f.outcome env req m t).1 := agree_eq hr
  refine ⟨ho, hd, ?_⟩
  let invocation : Invocation := ⟨f, m, (f.outcome env req m t).1⟩
  rw [ended, ended, ho]
  exact congrArg (fun p => { p with handled := p.handled ++ [invocation] }) hs

namespace Handler

/-- What the handler makes of a request, it makes of it in a plugin that shows the same and gives the
    same verdict. -/
theorem handleRequest_looksLike (env : Env W) (req : Request) (response : Response) (remote : Str)
    (p : Int) {s t : Plugin W} (hs : s.handler.Registered) (h : s.LooksLike t)
    (hv : authorized env s.sampConfig s.handler req remote =
      authorized env t.sampConfig t.handler req remote) :
    ∃ r s' t', handleRequest env req response remote p s = (.ok r, s') ∧
      handleRequest env req response remote p t = (.ok r, t') ∧ s'.LooksLike t' := by
  have ht := h.registered hs
  have hc := h.checked env req remote
  cases ha : authorized env s.sampConfig s.handler req remote with
  | false =>
    have hr := handleRequest_unauthorised env req response remote p ha
    have hr' := handleRequest_unauthorised env req response remote p (hv.symm.trans ha)
    rw [← hc.elapsed env p] at hr'
    exact ⟨_, _, _, hr, hr', (hc.withUrl req.target).tick⟩
  | true =>
    have ha' := hv.symm.trans ha
    cases hchosen : chosen req.target with
    | none =>
      have hr := handleRequest_unmatched env req response remote p hs ha hchosen
      have hr' := handleRequest_unmatched env req response remote p ht ha' hchosen
      rw [← hc.elapsed env p] at hr'
      exact ⟨_, _, _, hr, hr', (hc.withUrl req.target).tick⟩
    | some fm =>
      obtain ⟨f, m⟩ := fm
      have hr := handleRequest_matched env req response remote p hs ha hchosen
      have hr' := handleRequest_matched env req response remote p ht ha' hchosen
      obtain ⟨ho, hd, he⟩ := f.outcome_looksLike env req m hc
      rw [← ho, ← hd, ← he.elapsed env p] at hr'
      exact ⟨_, _, _, hr, hr', he.tick⟩

end Handler

/-- What the handler of a read does, it does in a plugin that shows the same, and gives the same verdict
    on the request if there is a client to be answered. -/
lemma onRead_looksLike (env : Env W) {c : Session} {result : Option Unit} {s s' t : Plugin W}
    {x : Except Exn Session} (hs : s.handler.Registered) (h : s.LooksLike t)
    (hv : result = some () → c.request.method.isHandled = true → ∀ remote,
      c.socket = .connected remote → Handler.authorized env s.sampConfig s.handler c.request remote =
        Handler.authorized env t.sampConfig t.handler c.request remote)
    (hx : Session.onRead env c result s = (x, s')) :
    ∃ t', Session.onRead env c result t = (x, t') ∧ s'.LooksLike t' := by
  rcases Session.onRead_cases env c result hs with
    ⟨rfl, hx'⟩ | ⟨rfl, hm, hx'⟩ | ⟨rfl, hm, hc, hx'⟩ | ⟨rfl, hm, remote, r, q, hc, hr, hx'⟩
  · cases hx.symm.trans hx'
    exact ⟨t, rfl, h⟩
  · cases hx.symm.trans hx'
    exact ⟨t, Session.processRequest_other env hm t, h⟩
  · cases hx.symm.trans hx'
    exact ⟨t, Session.processRequest_unconnected env hm hc t, h⟩
  · cases hx.symm.trans hx'
    obtain ⟨r', q', t', hr₁, hr₂, hlooks⟩ := Handler.handleRequest_looksLike env c.request
      c.headed.response remote c.init_time hs h (hv rfl hm remote hc)
    cases hr.symm.trans hr₁
    exact ⟨t', Session.processRequest_handled env hm hc hr₂, hlooks⟩

/-- A callback of the game. -/
lemma callback_looksLike (env : Env W) (c : Callback) {s t : Plugin W} (h : s.LooksLike t) :
    (c.run env s).2.LooksLike (c.run env t).2 := by
  cases c with
  | connect id => exact congrArg (fun p => (onPlayerConnect env id p).2) h
  | disconnect id => exact h.leave id

/-! ## Runs -/

namespace System

/-- What there is to see of the endpoint. -/
def shown (s : System W) : System W := { s with plugin := s.plugin.shown }

/-- The event hands a request of a client to the handler. -/
structure Hands (s : System W) (e : Event W) (req : Request) (remote : Str) : Prop where
  isHandled : req.method.isHandled = true
  reads : ∃ i c, e = .runRead i ∧ s.sessions[i]? = some c ∧ c.read = .ready (some ()) ∧
    c.request = req ∧ c.socket = .connected remote

/-- Endpoints that show the same, and have the settings of two plugins. -/
structure LooksLike (p q : Plugin W) (s t : System W) : Prop where
  shown : s.shown = t.shown
  settings : p.Settings s.plugin
  settings' : q.Settings t.plugin

lemma shown_congr (s : System W) {p q : Plugin W} (h : p.LooksLike q) :
    ({ s with plugin := p } : System W).shown = ({ s with plugin := q } : System W).shown :=
  congrArg (fun plugin => { s with plugin }) h

/-- Endpoints that show the same are the same but for what their plugins do not show. -/
lemma eq_of_shown {s t : System W} (h : s.shown = t.shown) :
    t = { s with plugin := t.plugin } ∧ s.plugin.LooksLike t.plugin := by
  cases s
  cases t
  simp only [shown, System.mk.injEq] at h
  obtain ⟨hplugin, rfl, rfl, rfl, rfl, rfl, rfl⟩ := h
  exact ⟨rfl, hplugin⟩

/-- One event, where the same verdict is given on the request that it hands to the handler. -/
lemma LooksLike.step {env : Env W} {p q : Plugin W} {s t s' : System W} {e : Event W}
    (h : LooksLike p q s t) (hp : p.handler.Registered)
    (hv : ∀ req remote, s.Hands e req remote →
      Handler.authorized env p.sampConfig p.handler req remote =
        Handler.authorized env q.sampConfig q.handler req remote)
    (he : s.step env e = some s') :
    ∃ t', t.step env e = some t' ∧ LooksLike p q s' t' := by
  have hs := h.settings.registered hp
  obtain ⟨heq, hlooks⟩ := eq_of_shown h.shown
  have ht := hlooks.registered hs
  have hset := h.settings'
  generalize t.plugin = r at heq hlooks ht hset
  subst heq
  -- it is enough that the other endpoint moves and shows the same
  have hmoves : ∀ {t' : System W}, Moves env { s with plugin := r } e t' → s'.shown = t'.shown →
      ∃ t', System.step env { s with plugin := r } e = some t' ∧ LooksLike p q s' t' := by
    intro t' hm hshown
    exact ⟨t', hm.step, hshown, h.settings.trans (System.step_settings env hs he),
      hset.trans (System.step_settings env (s := { s with plugin := r }) ht hm.step)⟩
  have hread : ∀ {i : Nat} {c : Session} {result x plugin}, e = .runRead i →
      s.sessions[i]? = some c → c.read = .ready result →
      Session.onRead env { c with read := .done } result s.plugin = (x, plugin) →
      ∃ plugin', Session.onRead env { c with read := .done } result r = (x, plugin') ∧
        plugin.LooksLike plugin' := by
    intro i c result x plugin hi hc hr hx
    refine onRead_looksLike env hs hlooks (fun hres hm remote hremote => ?_) hx
    have hhands : s.Hands e c.request remote := ⟨hm, i, c, hi, hc, hres ▸ hr, rfl, hremote⟩
    rw [h.settings.authorized, hset.authorized]
    exact hv _ _ hhands
  cases step_moves he with
  | @command c hpoll =>
    refine hmoves (.command hpoll) ?_
    cases c with
    | gameModeInit => exact shown_congr { s with ready := true } hlooks
    | gameModeExit => exact shown_congr { s with ready := false } hlooks
    | callback c => exact shown_congr s (callback_looksLike env c hlooks)
    | game w => exact shown_congr s (hlooks.game w)
    | processTick => exact shown_congr { s with polling := s.ready } hlooks
  | @accepted result ha =>
    exact hmoves (.accepted ha) (shown_congr { s with accept := .ready result } hlooks)
  | @network i _ _ c' hc hc' =>
    exact hmoves (.network hc hc') (shown_congr { s with sessions := s.sessions.set i c' } hlooks)
  | @runAccept result next hpoll ha =>
    refine hmoves (.runAccept hpoll ha) ?_
    cases result with
    | none => exact shown_congr (s.listen next) hlooks
    | some conn =>
      -- the session that is started has the same time
      have honAccept : onAccept env { s with plugin := r } (some conn) next =
          { onAccept env s (some conn) next with plugin := r.tick } := by
        simp only [onAccept, start, listen, hlooks.readings]
        rfl
      rw [honAccept]
      exact shown_congr (onAccept env s (some conn) next) hlooks.tick
  | @readSome i _ _ _ c' hpoll hc hc' =>
    exact hmoves (.readSome hpoll hc hc')
      (shown_congr { s with sessions := s.sessions.set i c' } hlooks)
  | @runRead i _ _ c' _ hpoll hc hr hx =>
    obtain ⟨_, hx', hq⟩ := hread rfl hc hr hx
    exact hmoves (.runRead hpoll hc hr hx')
      (shown_congr { s with sessions := s.sessions.set i c' } hq)
  | @throws i c _ x _ hpoll hc hr hx =>
    obtain ⟨_, hx', hq⟩ := hread rfl hc hr hx
    exact hmoves (.throws hpoll hc hr hx')
      (shown_congr { s with
        sessions := s.sessions.set i { c with read := .done }
        polling := false
        escaped := s.escaped ++ [x] } hq)
  | @runWrite i c _ hpoll hc hw =>
    exact hmoves (.runWrite hpoll hc hw)
      (shown_congr { s with sessions := s.sessions.set i { c with write := .done }.onWrite } hlooks)
  | @runDeadline i c result hpoll hc hd =>
    exact hmoves (.runDeadline hpoll hc hd) (shown_congr { s with
      sessions := s.sessions.set i ({ c with deadline := .done }.onDeadline result) } hlooks)
  | pollReturn hpoll hq =>
    exact hmoves (.pollReturn hpoll hq) (shown_congr { s with polling := false } hlooks)

/-- Nobody can tell the configuration but by the verdicts on requests. Let `Load` succeed with any two
    configuration files, whatever their passwords, seeds and whitelists are. A run of the endpoint of the
    one, in which both files give the same verdict on every request that is handed to the handler, is a
    run of the endpoint of the other, in which all there is to see is the same: what the clients get and
    when their connections are closed, what the game is told to do, the registry, and what the clock was
    read for. -/
theorem same_verdicts (env : Env W) {host host' : Host} {text text' : Str} {g g' : Globals}
    (hc : host.content "server.cfg".toList = some text) (hl : load host {} = (.ok true, g))
    (hc' : host'.content "server.cfg".toList = some text') (hl' : load host' {} = (.ok true, g')) :
    ∃ e e', g.e = some e ∧ g'.e = some e' ∧ ∀ world es t,
      run (step env) (g.system e world) es = some t →
      (∀ u event req remote, Takes (step env) (g.system e world) es u event →
        u.Hands event req remote → (Permitted env text req remote ↔ Permitted env text' req remote)) →
      ∃ t', run (step env) (g'.system e' world) es = some t' ∧ t'.shown = t.shown := by
  obtain ⟨port, password, seed, he, hp, hs, hconfig⟩ := load_started hc hl
  obtain ⟨port', password', seed', he', hp', hs', hconfig'⟩ := load_started hc' hl'
  refine ⟨_, _, he, he', fun world es t hr hv => ?_⟩
  let s := g.system (startedEndpoint port password seed) world
  let s' := g'.system (startedEndpoint port' password' seed') world
  have hmanager := (load_assigns host).playerManager
  have hmanager' := (load_assigns host').playerManager
  rw [hl] at hmanager
  rw [hl'] at hmanager'
  have hstart : LooksLike s.plugin s'.plugin s s' := by
    refine ⟨?_, .refl _, .refl _⟩
    show (g.system _ world).shown = (g'.system _ world).shown
    rw [Globals.system, Globals.system, hmanager, hmanager']
    rfl
  have hstep : ∀ (u v : System W) event u', LooksLike s.plugin s'.plugin u v →
      (∀ req remote, u.Hands event req remote →
        (Permitted env text req remote ↔ Permitted env text' req remote)) →
      step env u event = some u' →
        ∃ v', step env v event = some v' ∧ LooksLike s.plugin s'.plugin u' v' := by
    intro u v event u' h hC hu
    refine h.step ⟨rfl, rfl⟩ (fun req remote hhands => ?_) hu
    rw [Bool.eq_iff_iff, permitted_iff env hp hs hconfig (.refl _),
      permitted_iff env hp' hs' hconfig' (.refl _)]
    exact hC req remote hhands
  obtain ⟨t', hr', h⟩ := run_simulation hstep hstart
    (fun u event htakes req remote => hv u event req remote htakes) hr
  exact ⟨t', hr', h.shown.symm⟩

/-- One client guesses the password. -/
def guess : List (Event Demo.Game) := [
  .command .gameModeInit, .accepted (some ⟨Demo.remote, 40⟩), .command .processTick,
  .runAccept .waits, .readSome 0 40 (.complete Demo.kickBob), .runRead 0]

/-- The bodies of the examples all have the same password. -/
lemma decode_password {text : Str} {body : BodyRequest}
    (h : decode Demo.env BodyRequest text = .ok body) : body.password = "pw".toList := by
  have h : Demo.env.decode text = .ok body := by
    rw [decode] at h
    split at h
    · cases h
      assumption
    · cases h
  cases hl : Demo.bodies.lookup text with
  | none =>
    simp only [Demo.env, hl] at h
    cases h
  | some members =>
    simp only [Demo.env, hl] at h
    have hmem : (text, members) ∈ Demo.bodies := by
      obtain ⟨before, behind, heq, -⟩ := List.lookup_eq_some_iff.1 hl
      rw [heq]
      exact List.mem_append_right _ List.mem_cons_self
    simp only [Demo.bodies, List.mem_cons, Prod.mk.injEq, List.not_mem_nil, or_false] at hmem
    rcases hmem with ⟨-, rfl⟩ | ⟨-, rfl⟩
    · cases h
      rfl
    · cases h
      rfl

/-- A file with another password permits nothing. -/
lemma not_permitted {text password : Str} (hp : passwordIn text = some password)
    (hne : password ≠ "pw".toList) (req : Request) (remote : Str) :
    ¬ Permitted Demo.env text req remote := by
  intro h
  obtain ⟨-, _, _, body, hp', -, hd, hpassword, -⟩ := h
  cases hp.symm.trans hp'
  exact hne (hpassword.symm.trans (decode_password hd))

/-- The globals of a plugin that was loaded with a password and nothing else. -/
def Demo.loadedWith (password : String) : Globals :=
  (load (Demo.host true ("api_password ".toList ++ password.toList)) {}).2

/-- A wrong guess does not tell one password from another. -/
theorem same_verdicts_guess :
    ∃ e e' t t', (Demo.loadedWith "one").e = some e ∧ (Demo.loadedWith "two").e = some e' ∧
      run (step Demo.env) ((Demo.loadedWith "one").system e {}) guess = some t ∧
      run (step Demo.env) ((Demo.loadedWith "two").system e' {}) guess = some t' ∧
      t'.shown = t.shown := by
  have hload : load (Demo.host true "api_password one".toList) {} = (.ok true, Demo.loadedWith "one") :=
    Prod.ext (by rfl) rfl
  have hload' : load (Demo.host true "api_password two".toList) {} = (.ok true, Demo.loadedWith "two") :=
    Prod.ext (by rfl) rfl
  have hc : (Demo.host true "api_password one".toList).content "server.cfg".toList =
      some "api_password one".toList := rfl
  have hc' : (Demo.host true "api_password two".toList).content "server.cfg".toList =
      some "api_password two".toList := rfl
  obtain ⟨e, e', he, he', h⟩ := same_verdicts Demo.env hc hload hc' hload'
  have hrun : (Demo.loadedWith "one").e.map (fun e =>
      (run (step Demo.env) ((Demo.loadedWith "one").system e {}) guess).isSome) = some true := by
    decide +kernel
  rw [he] at hrun
  obtain ⟨t, hr⟩ := Option.isSome_iff_exists.1 (Option.some.inj hrun)
  obtain ⟨t', hr', hshown⟩ := h {} guess t hr fun _ _ req remote _ _ =>
    iff_of_false (not_permitted (by rfl) (by decide) req remote)
      (not_permitted (by rfl) (by decide) req remote)
  exact ⟨e, e', t, t', he, he', hr, hr', hshown⟩

end System
end SampApi

import SampApi.Authorize
import SampApi.Envelope
import SampApi.Purge
import SampApi.Serial

/-!
# What clients get

The responses that are written in a run of the endpoint, seen from the wire. Each is a whole answer to
the request that its session has read (`replies`): an empty response, or one JSON object whose code is
the status. When the plugin was loaded with a configuration file, the status is 401 exactly if the file
does not permit the request, and a request that it does not permit does nothing (`authentic`). Both
follow from what the sequential server does with one request, since the endpoint refines it.
-/

namespace SampApi
open Lib RouteFunction

variable {W : Type}

/-! ## Responses -/

/-- The statuses that the handler answers with. -/
def statuses : List Nat := [200, 401, 404, 417, 500]

lemma code_mem_statuses (o : Except Exn Bool) : code o ∈ statuses := by
  rcases o with e | _ | _
  · exact (by decide : 500 ∈ statuses)
  · exact (by decide : 417 ∈ statuses)
  · exact (by decide : 200 ∈ statuses)

lemma code_ne_401 (o : Except Exn Bool) : code o ≠ 401 := by
  rcases o with e | _ | _
  · exact (by decide : 500 ≠ 401)
  · exact (by decide : 417 ≠ 401)
  · exact (by decide : 200 ≠ 401)

/-- The response is a whole answer to the request. -/
structure Response.Replies (env : Env W) (req : Request) (r : Response) : Prop where
  version : r.version = req.version
  keep_alive : r.keep_alive = false
  content_length : r.content_length = some r.body.length
  other : req.method.isHandled = false → r.result = 200 ∧ r.content_type = none ∧ r.body = []
  handled : req.method.isHandled = true →
    r.content_type = some "application/json".toList ∧ r.result ∈ statuses ∧
      ∃ a : Answer, r.body = a.encode env ∧ a.envelope.code.toNat = r.result

/-- The head of the response that the handler makes: 401 stands in it exactly if the request is not
    authorised. -/
lemma handleRequest_head (env : Env W) (req : Request) (response : Response) (remote : Str) (p : Int)
    {s : Plugin W} (hs : s.handler.Registered) :
    ∃ r q, Handler.handleRequest env req response remote p s = (.ok r, q) ∧
      r.version = response.version ∧ r.keep_alive = response.keep_alive ∧
      r.content_type = some "application/json".toList ∧ r.result ∈ statuses ∧
      (r.result = 401 ↔ Handler.authorized env s.sampConfig s.handler req remote = false) := by
  cases ha : Handler.authorized env s.sampConfig s.handler req remote with
  | false =>
    refine ⟨_, _, handleRequest_unauthorised env req response remote p ha, rfl, rfl, rfl, ?_, ?_⟩
    · exact (by decide : 401 ∈ statuses)
    · exact iff_of_true rfl rfl
  | true =>
    cases hc : chosen req.target with
    | none =>
      refine ⟨_, _, handleRequest_unmatched env req response remote p hs ha hc, rfl, rfl, rfl, ?_, ?_⟩
      · exact (by decide : 404 ∈ statuses)
      · exact iff_of_false (by decide : (404 : Nat) ≠ 401) nofun
    | some fm =>
      have hcode := message_code env fm.1 req fm.2 (s.checked env req remote)
        (fm.1.outcome env req fm.2 (s.checked env req remote)).2.2
      refine ⟨_, _, handleRequest_matched env req response remote p hs ha hc, rfl, rfl, rfl, ?_, ?_⟩
      · show (IsMessage.base _).code.toNat ∈ statuses
        rw [hcode]
        exact code_mem_statuses _
      · exact iff_of_false (fun h => code_ne_401 _ (hcode.symm.trans h)) nofun

/-- What is written for one request. -/
lemma step_replies {env : Env W} {s : Plugin W} (hs : s.handler.Registered) {req : Request}
    {remote : Str} {t : Int} {r : Response} (h : (s.step env (.request req remote t)).2 = some r) :
    r.Replies env req ∧ (req.method.isHandled = true →
      (r.result = 401 ↔ Handler.authorized env s.sampConfig s.handler req remote = false)) := by
  rcases step_request env req remote t hs with ⟨hm, hstep⟩ | ⟨hm, r', q, hr', hstep⟩
  · rw [hstep] at h
    cases h
    refine ⟨⟨rfl, rfl, rfl, fun _ => ⟨rfl, rfl, rfl⟩, fun hm' => ?_⟩, fun hm' => ?_⟩
    · cases hm.symm.trans hm'
    · cases hm.symm.trans hm'
  · rw [hstep] at h
    cases h
    obtain ⟨r₁, q₁, hr₁, hversion, halive, htype, hstatus, hiff⟩ :=
      handleRequest_head env req (.headFor req) remote t hs
    obtain ⟨r₂, q₂, hr₂, hresult, hbody⟩ :=
      handleRequest_answered env req (.headFor req) remote t hs
    cases hr'.symm.trans hr₁
    cases hr'.symm.trans hr₂
    refine ⟨⟨hversion, halive, rfl, fun hm' => ?_, fun _ => ⟨htype, hstatus, _, ?_, hresult.symm⟩⟩,
      fun _ => hiff⟩
    · cases hm.symm.trans hm'
    · exact hbody.trans (List.nil_append _)

namespace System

/-- In every run of the endpoint, whatever a session has begun to write is a whole answer to the
    request that it has read: version, length and type are right, the connection is closed behind it,
    and the body is empty or the text of one answer, whose code is the status. -/
theorem replies (env : Env W) {p : Plugin W} (hp : p.handler.Registered) {es : List (Event W)}
    {t : System W} (hr : run (step env) (initial p) es = some t) {i : Nat} {c : Session}
    (hc : t.sessions[i]? = some c) {req : Request} {r : Response} (hw : c.written = some (req, r)) :
    r.Replies env req := by
  obtain ⟨pre, suf, d, -, -, hstep⟩ := written_answer env hp hr hc hw
  exact (step_replies ((Server.after_settings env hp pre).registered hp) hstep).1

/-- In the exchange of one client, the client gets a whole answer. -/
theorem replies_exchange :
    ∃ t c r, run (step Demo.env) (initial (Demo.plugin {})) exchange = some t ∧
      t.sessions[0]? = some c ∧ c.written = some (Demo.visit, r) ∧ r.Replies Demo.env Demo.visit := by
  have hwritten : (run (step Demo.env) (initial (Demo.plugin {})) exchange).map
      (fun t => (t.sessions[0]?.bind Session.written).map Prod.fst) = some (some Demo.visit) := by
    decide +kernel
  obtain ⟨t, hr, ht⟩ := Option.map_eq_some_iff.1 hwritten
  obtain ⟨⟨req, r⟩, hw, rfl⟩ := Option.map_eq_some_iff.1 ht
  obtain ⟨c, hc, hw⟩ := Option.bind_eq_some_iff.1 hw
  exact ⟨t, c, r, hr, hc, hw, replies Demo.env ⟨rfl, rfl⟩ hr hc hw⟩

end System

/-! ## Loaded plugins -/

/-- When `Load` succeeds with a configuration file, it has started an endpoint with the settings of the
    file. -/
lemma load_started {host : Host} {text : Str} {g : Globals}
    (hc : host.content "server.cfg".toList = some text) (hl : load host {} = (.ok true, g)) :
    ∃ port password seed, g.e = some (startedEndpoint port password seed) ∧
      passwordIn text = some password ∧ stoul (seedIn text) = .ok seed ∧
      g.sampConfig = some (Config.load {} (some text)).2 := by
  have h := load_loads host
  rw [hl] at h
  generalize ho : (.ok true : Except Exn Bool) = outcome at h
  cases h with
  | logThrows _ => cases ho
  | logFails _ _ => cases ho
  | noFile _ _ _ => cases ho
  | noPassword _ _ _ _ => cases ho
  | throws _ _ _ _ => cases ho
  | @starts text' password port seed _ _ hc' hp _ hs he hconfig =>
    cases hc.symm.trans hc'
    exact ⟨port, password, seed, he, hp, hs, hconfig⟩

/-- A plugin with the settings of a file authorises what the file permits. -/
lemma permitted_iff (env : Env W) {text password : Str} {port : UInt16} {seed : Nat} {g : Globals}
    {world : W} (hp : passwordIn text = some password) (hs : stoul (seedIn text) = .ok seed)
    (hconfig : g.sampConfig = some (Config.load {} (some text)).2) {s : Plugin W}
    (hset : (g.system (startedEndpoint port password seed) world).plugin.Settings s) (req : Request)
    (remote : Str) :
    Handler.authorized env s.sampConfig s.handler req remote = true ↔
      Permitted env text req remote := by
  rw [hset.authorized, ← authorized_iff env hp hs port]
  show Handler.authorized env (g.sampConfig.getD {}) _ req remote = true ↔ _
  rw [hconfig]
  exact Iff.rfl

namespace System

/-- A session that has answered a request for the handler has answered with 401 exactly if the file
    does not permit the request to the client of the session. -/
lemma written_permitted (env : Env W) {text password : Str} {port : UInt16} {seed : Nat} {g : Globals}
    {world : W} (hp : passwordIn text = some password) (hs : stoul (seedIn text) = .ok seed)
    (hconfig : g.sampConfig = some (Config.load {} (some text)).2) {es : List (Event W)}
    {t : System W}
    (hr : run (step env) (g.system (startedEndpoint port password seed) world) es = some t) {i : Nat}
    {c : Session} {req : Request} {r : Response} (hi : t.sessions[i]? = some c)
    (hw : c.written = some (req, r)) (hm : req.method.isHandled = true) :
    ∃ d, (after (Server.step env)
        { plugin := (g.system (startedEndpoint port password seed) world).plugin }
        (trace (step env) items (g.system (startedEndpoint port password seed) world) es)).clients[i]? =
          some d ∧
      (r.result = 401 ↔ ¬ Permitted env text req d.remote) := by
  have hreg : (g.system (startedEndpoint port password seed) world).plugin.handler.Registered :=
    ⟨rfl, rfl⟩
  obtain ⟨pre, suf, d, heq, hd, hstep⟩ := written_answer env hreg hr hi hw
  have hset := Server.after_settings env hreg pre
  refine ⟨d, ?_, ?_⟩
  · have hd := Server.after_clients env hd (.request i req :: suf)
    rw [← heq] at hd
    exact hd
  · rw [(step_replies (hset.registered hreg) hstep).2 hm, ← Bool.not_eq_true,
      permitted_iff env hp hs hconfig hset]

/-- When `Load` succeeds with a configuration file, then in every run of the endpoint, in whatever
    order its sessions come to be served, a request for the handler that a session has answered was
    answered with 401 exactly if the file does not permit it to the client of that session; and in the
    history of the run a request that the file does not permit leaves the plugin the same: it calls no
    native and runs no function. -/
theorem authentic (env : Env W) {host : Host} {text : Str} {g : Globals}
    (hc : host.content "server.cfg".toList = some text) (hl : load host {} = (.ok true, g)) :
    ∃ e, g.e = some e ∧ ∀ world es t, run (step env) (g.system e world) es = some t →
      let s := g.system e world
      let history := trace (step env) items s es
      let clients := (after (Server.step env) { plugin := s.plugin } history).clients
      (∀ (i : Nat) (c : Session) req r, t.sessions[i]? = some c → c.written = some (req, r) →
        req.method.isHandled = true →
          ∃ d, clients[i]? = some d ∧ (r.result = 401 ↔ ¬ Permitted env text req d.remote)) ∧
      (∀ pre suf i req, history = pre ++ .request i req :: suf →
        ∀ d, clients[i]? = some d → ¬ Permitted env text req d.remote →
          let v := after (Server.step env) { plugin := s.plugin } pre
          v.plugin.Same (v.step env (.request i req)).1.plugin) := by
  obtain ⟨port, password, seed, he, hp, hs, hconfig⟩ := load_started hc hl
  refine ⟨_, he, fun world es t hr => ?_⟩
  intro s history clients
  have hreg : s.plugin.handler.Registered := ⟨rfl, rfl⟩
  refine ⟨fun i c req r hi hw hm => written_permitted env hp hs hconfig hr hi hw hm,
    fun pre suf i req heq d hd hn => ?_⟩
  intro v
  have hset : s.plugin.Settings v.plugin := Server.after_settings env hreg pre
  cases hv : v.clients[i]? with
  | none =>
    rw [Server.step, hv]
    exact .refl _
  | some d' =>
    -- the client was there when it was answered
    have hd' := Server.after_clients env hv (.request i req :: suf)
    rw [← heq] at hd'
    cases hd.symm.trans hd'
    rw [Server.step, hv]
    refine unauthorised_same env (hset.registered hreg) (e := .request req d.remote d.init_time) ?_
    rw [unauthorised_request, Bool.not_eq_true', ← Bool.not_eq_true,
      permitted_iff env hp hs hconfig hset]
    exact hn

/-- The globals of a plugin that was loaded with a password and nothing else. -/
def Demo.loaded : Globals := (load (Demo.host true "api_password pw".toList) {}).2

/-- What the visitor gets from it. -/
theorem authentic_exchange :
    ∃ e t c r, Demo.loaded.e = some e ∧
      run (step Demo.env) (Demo.loaded.system e {}) exchange = some t ∧
      t.sessions[0]? = some c ∧ c.written = some (Demo.visit, r) ∧
        (r.result = 401 ↔ ¬ Permitted Demo.env "api_password pw".toList Demo.visit Demo.remote) := by
  have hload : load (Demo.host true "api_password pw".toList) {} = (.ok true, Demo.loaded) := by
    exact Prod.ext (by rfl) rfl
  have hc : (Demo.host true "api_password pw".toList).content "server.cfg".toList =
      some "api_password pw".toList := rfl
  obtain ⟨e, he, h⟩ := authentic Demo.env hc hload
  have hrun : Demo.loaded.e.map (fun e =>
      ((run (step Demo.env) (Demo.loaded.system e {}) exchange).map fun t =>
        (t.sessions[0]?.bind Session.written).map Prod.fst,
      (after (Server.step Demo.env) { plugin := (Demo.loaded.system e {}).plugin }
        (trace (step Demo.env) items (Demo.loaded.system e {}) exchange)).clients.map
          Client.remote)) = some (some (some Demo.visit), [Demo.remote]) := by
    decide +kernel
  rw [he] at hrun
  obtain ⟨hw, hclients⟩ := Prod.mk.inj (Option.some.inj hrun)
  obtain ⟨t, hr, ht⟩ := Option.map_eq_some_iff.1 hw
  obtain ⟨⟨req, r⟩, hw, rfl⟩ := Option.map_eq_some_iff.1 ht
  obtain ⟨c, hc, hw⟩ := Option.bind_eq_some_iff.1 hw
  obtain ⟨d, hd, hiff⟩ := (h {} exchange t hr).1 0 c _ r hc hw rfl
  have hremote := (List.getElem?_map ..).trans (congrArg (Option.map Client.remote) hd)
  rw [hclients] at hremote
  have hremote : Demo.remote = d.remote := Option.some.inj hremote
  rw [← hremote] at hiff
  exact ⟨e, t, c, r, he, hr, hc, hw, hiff⟩

end System
end SampApi

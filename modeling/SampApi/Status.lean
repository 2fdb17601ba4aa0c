import SampApi.Demo
import SampApi.Server

/-!
# Status codes

What the status of a response says. `status_reports_iff` is about the routes that call a native to do
something: the status reports the result of the native, except for the functions that take `true` for
a failure (`ipban`, `ipunban`) and the one that does not look at the result (`say`).
`success_iff` is about all requests that a session answers.
-/

namespace SampApi
open Lib

variable {W : Type}

/-! ## Actions -/

/-- What a native tells about its success. -/
def Call.succeeded : Call → Bool
  | ⟨.Kick _, r⟩ => r.ok
  | ⟨.Ban _, r⟩ => r.ok
  | ⟨.SendPlayerMessageToAll _ _, b⟩ => b
  | ⟨.BlockIpAddress _ _, b⟩ => b
  | ⟨.UnBlockIpAddress _, b⟩ => b
  | ⟨.SetGameModeText _, b⟩ => b
  | ⟨.SetGravity _, b⟩ => b
  | ⟨.SetWeather _, b⟩ => b
  | _ => false

namespace RouteFunction

/-- The function calls a native to do something. -/
def isAction : RouteFunction → Bool
  | playerKick => true
  | playerBan => true
  | miscSay => true
  | miscIpban => true
  | miscIpunban => true
  | settingsGamemodetext => true
  | settingsGravity => true
  | settingsWeather => true
  | playerList => false
  | miscEcho => false
  | settingsList => false

/-- The body is one that the function can decode, if it decodes it. -/
def Decodes (env : Env W) (body : Str) : RouteFunction → Prop
  | miscSay => ∃ request, decode env SayRequest body = .ok request
  | miscEcho => ∃ request, decode env SayRequest body = .ok request
  | miscIpban => ∃ request, decode env IpRequest body = .ok request
  | miscIpunban => ∃ request, decode env IpRequest body = .ok request
  | settingsGamemodetext => ∃ request, decode env SimpleRequest body = .ok request
  | settingsGravity => ∃ request, decode env GravityRequest body = .ok request
  | settingsWeather => ∃ request, decode env SimpleIntRequest body = .ok request
  | playerList => True
  | playerKick => True
  | playerBan => True
  | settingsList => True

/-- The status reports what became of the natives: 200 or 417 after the result of the one native that
    was called, 417 if no player has the name, and 500 without a call if the body was not decoded. -/
def Reports (env : Env W) (f : RouteFunction) (m : Match) (body : Str) (s q : Plugin W)
    (result : Nat) : Prop :=
  (Decodes env body f →
    (∃ call, q.calls = s.calls ++ [call] ∧ result = if call.succeeded then 200 else 417) ∨
    (q.calls = s.calls ∧ result = 417 ∧ (f = playerKick ∨ f = playerBan) ∧
      ∀ id pl, s.playerManager.players.find? id = some pl → pl.name ≠ m.get "name".toList)) ∧
  (¬ Decodes env body f → q.calls = s.calls ∧ result = 500)

/-- The body is not one on which the function mistakes the result of the native. -/
def ChecksNative (env : Env W) (body : Str) (s : Plugin W) : RouteFunction → Prop
  | miscSay => ∀ request, decode env SayRequest body = .ok request →
    (env.game (.SendPlayerMessageToAll request.color
      (cStr (request.name ++ ": ".toList ++ request.message))) s.world).1 = true
  | miscIpban => ¬ Decodes env body miscIpban
  | miscIpunban => ¬ Decodes env body miscIpunban
  | _ => True

lemma reports_called {env : Env W} {f : RouteFunction} {m : Match} {body : Str} {s q : Plugin W}
    {result : Nat} {call : Call} (hd : Decodes env body f) (hq : q.calls = s.calls ++ [call]) :
    Reports env f m body s q result ↔ result = if call.succeeded then 200 else 417 := by
  constructor
  · intro h
    rcases h.1 hd with ⟨call', hq', hr⟩ | ⟨hq', -⟩
    · cases List.append_cancel_left (hq.symm.trans hq')
      exact hr
    · exact absurd (hq.symm.trans hq') (by simp)
  · intro h
    exact ⟨fun _ => .inl ⟨call, hq, h⟩, fun hn => absurd hd hn⟩

lemma reports_undecoded {env : Env W} {f : RouteFunction} {m : Match} {body : Str} {s q : Plugin W}
    {result : Nat} (hd : ¬ Decodes env body f) (hq : q.calls = s.calls) (hr : result = 500) :
    Reports env f m body s q result := ⟨fun h => absurd h hd, fun _ => ⟨hq, hr⟩⟩

/-! ## How the actions end -/

section Outcomes
variable (env : Env W) (req : Request) (m : Match) (s : Plugin W)

/-- A function that begins by decoding the body ends there, if the body does not decode. -/
lemma decode_bind_error {T R α : Type} [DefaultCodec R] {e : Exn}
    (h : decode env R req.body = .error e) (k : R → Prog (Plugin W × T) Exn α) (x : Plugin W × T) :
    (Prog.lift (decode env R req.body) >>= k) x = (.error e, x) := by
  rw [h]
  rfl

lemma decode_bind_ok {T R α : Type} [DefaultCodec R] {request : R}
    (h : decode env R req.body = .ok request) (k : R → Prog (Plugin W × T) Exn α)
    (x : Plugin W × T) :
    (Prog.lift (decode env R req.body) >>= k) x = k request x := by
  rw [h]
  rfl

lemma not_decodes {f : RouteFunction} {R : Type} [DefaultCodec R] {e : Exn}
    (hd : Decodes env req.body f ↔ ∃ request, decode env R req.body = .ok request)
    (hdec : decode env R req.body = .error e) : ¬ Decodes env req.body f := by
  intro h
  obtain ⟨request, hr⟩ := hd.1 h
  cases hdec.symm.trans hr

/-- The functions on a name end as the action does. -/
lemma onName_ends {act : Str → Act W Bool} (done : String) {s q : Plugin W} {b : Bool}
    (h : act (m.get "name".toList) s = (.ok b, q)) (data : Message) :
    ∃ data', player.onName act done m (s, data) = (.ok b, q, data') := by
  have hact : Prog.onFst (act (m.get "name".toList)) (s, data) = (.ok b, q, data) := by
    rw [Prog.onFst_run, h]
  rw [player.onName, Prog.bind_ok hact]
  cases b with
  | true => exact ⟨_, rfl⟩
  | false => exact ⟨_, rfl⟩

/-- The functions that change a setting end as the native does. -/
lemma change_ends {R : Type} [DefaultCodec R] {set : R → Act W Bool} (failure success : String)
    {request : R} {s q : Plugin W} {b : Bool} (hd : decode env R req.body = .ok request)
    (h : set request s = (.ok b, q)) (data : Message) :
    ∃ data', settings.change env R set failure success req (s, data) = (.ok b, q, data') := by
  have hset : Prog.onFst (set request) (s, data) = (.ok b, q, data) := by
    rw [Prog.onFst_run, h]
  rw [settings.change, decode_bind_ok env req hd, Prog.bind_ok hset]
  cases b with
  | true => exact ⟨_, rfl⟩
  | false => exact ⟨_, rfl⟩

/-- The result of the native, as a status. -/
lemma code_ok (b : Bool) : code (.ok b) = if b then 200 else 417 := by
  cases b <;> rfl

/-- A status for the opposite result is not the one for the result. -/
lemma mistaken (b : Bool) : (if (!b) = true then 200 else 417) ≠ if b = true then 200 else 417 := by
  cases b with
  | true => simp
  | false => simp

/-- The status of a function that removes the first player with a name reports the result. -/
lemma named_reports {f : RouteFunction} (hf : f = playerKick ∨ f = playerBan)
    (remove : UInt32 → Native) (hret : ∀ id, (remove id).Ret = Removal)
    (hcall : ∀ id (r : (remove id).Ret), Call.succeeded ⟨remove id, r⟩ = (cast (hret id) r).ok)
    {act : Str → Act W Bool} (done : String)
    (hact : act (m.get "name".toList) s =
      match findLogin (m.get "name".toList) (s.playerManager.players.toList env.order) with
      | some pl =>
        (.ok (cast (hret pl.id) (env.game (remove pl.id) s.world).1).ok,
          (s.called env (remove pl.id)).leaveAll
            (cast (hret pl.id) (env.game (remove pl.id) s.world).1).left)
      | none => (.ok false, s)) (data : Message) :
    Reports env f m req.body s (player.onName act done m (s, data)).2.1
      (code (player.onName act done m (s, data)).1) := by
  have hd : Decodes env req.body f := by
    rcases hf with rfl | rfl <;> trivial
  cases hl : findLogin (m.get "name".toList) (s.playerManager.players.toList env.order) with
  | some pl =>
    rw [hl] at hact
    obtain ⟨data', ho⟩ := onName_ends m done hact data
    rw [ho]
    apply (reports_called hd (Plugin.leaveAll_calls _ _)).2
    rw [code_ok, hcall]
  | none =>
    rw [hl] at hact
    obtain ⟨data', ho⟩ := onName_ends m done hact data
    rw [ho]
    refine ⟨fun _ => .inr ⟨rfl, rfl, hf, fun id pl hpl => ?_⟩, fun hn => absurd hd hn⟩
    exact findLogin_none.1 hl (id, pl) (HashMap.mem_toList.2 hpl)

/-- The status of a function that changes a setting reports the result of the native, and that the
    body was not decoded. -/
lemma change_reports {f : RouteFunction} {R : Type} [DefaultCodec R] (n : R → Native)
    (hret : ∀ request, (n request).Ret = Bool)
    (hcall : ∀ request (r : (n request).Ret), Call.succeeded ⟨n request, r⟩ = cast (hret request) r)
    (hd : Decodes env req.body f ↔ ∃ request, decode env R req.body = .ok request)
    {set : R → Act W Bool}
    (hset : ∀ request, set request s =
      (.ok (cast (hret request) (env.game (n request) s.world).1), s.called env (n request)))
    (failure success : String) (data : Message) :
    Reports env f m req.body s (settings.change env R set failure success req (s, data)).2.1
      (code (settings.change env R set failure success req (s, data)).1) := by
  cases hdec : decode env R req.body with
  | error e =>
    rw [settings.change, decode_bind_error env req hdec]
    exact reports_undecoded (not_decodes env req hd hdec) rfl rfl
  | ok request =>
    obtain ⟨data', ho⟩ := change_ends env req failure success hdec (hset request) data
    rw [ho]
    refine (reports_called (hd.2 ⟨request, hdec⟩) rfl).2 ?_
    rw [code_ok, hcall]

/-- A function that takes `true` for a failure returns the opposite. -/
lemma opposite_ends (ok : Bool) (failure success : Str) (q : Plugin W) (data : Message) :
    ∃ data', (if ok = true then reply failure >>= fun _ => pure false
      else reply success >>= fun _ => pure true : Prog (Plugin W × Message) Exn Bool) (q, data) =
        (.ok (!ok), q, data') := by
  cases ok with
  | true => exact ⟨_, rfl⟩
  | false => exact ⟨_, rfl⟩

/-- `ipban` returns the opposite of what the native returns. -/
lemma ipban_ends {request : IpRequest} (hd : decode env IpRequest req.body = .ok request)
    (data : Message) :
    let n : Native := .BlockIpAddress (cStr request.address) (request.time * 1000).toInt32
    let ok : Bool := (env.game n s.world).1
    ∃ data', misc.ipban env req m (s, data) = (.ok (!ok), s.called env n, data') := by
  intro n ok
  rw [misc.ipban, decode_bind_ok env req hd]
  exact opposite_ends ok _ _ _ data

/-- `ipunban` returns the opposite of what the native returns. -/
lemma ipunban_ends {request : IpRequest} (hd : decode env IpRequest req.body = .ok request)
    (data : Message) :
    let n : Native := .UnBlockIpAddress (cStr request.address)
    let ok : Bool := (env.game n s.world).1
    ∃ data', misc.ipunban env req m (s, data) = (.ok (!ok), s.called env n, data') := by
  intro n ok
  rw [misc.ipunban, decode_bind_ok env req hd]
  exact opposite_ends ok _ _ _ data

/-- `say` returns `true` whatever the native returns. -/
lemma say_ends {request : SayRequest} (hd : decode env SayRequest req.body = .ok request)
    (data : Message) :
    let n : Native := .SendPlayerMessageToAll request.color
      (cStr (request.name ++ ": ".toList ++ request.message))
    ∃ data', misc.say env req m (s, data) = (.ok true, s.called env n, data') := by
  intro n
  rw [misc.say, decode_bind_ok env req hd]
  exact ⟨_, rfl⟩

/-- A function whose body does not decode reports that. -/
lemma undecoded_reports {f : RouteFunction} {R : Type} [DefaultCodec R] {e : Exn}
    (hd : Decodes env req.body f ↔ ∃ request, decode env R req.body = .ok request)
    (hdec : decode env R req.body = .error e) (k : R → Prog (Plugin W × f.Data) Exn Bool)
    (data : f.Data) :
    Reports env f m req.body s ((Prog.lift (decode env R req.body) >>= k) (s, data)).2.1
      (code ((Prog.lift (decode env R req.body) >>= k) (s, data)).1) := by
  rw [decode_bind_error env req hdec]
  exact reports_undecoded (not_decodes env req hd hdec) rfl rfl

/-- The status of a function that returns the opposite of what its native returns reports only that the
    body was not decoded. -/
lemma opposite_reports {f : RouteFunction} {R : Type} [DefaultCodec R] (n : R → Native)
    (hret : ∀ request, (n request).Ret = Bool)
    (hcall : ∀ request (r : (n request).Ret), Call.succeeded ⟨n request, r⟩ = cast (hret request) r)
    (hd : Decodes env req.body f ↔ ∃ request, decode env R req.body = .ok request)
    {k : R → Prog (Plugin W × f.Data) Exn Bool} {data : f.Data}
    {r : Except Exn Bool × Plugin W × f.Data}
    (hr : (Prog.lift (decode env R req.body) >>= k) (s, data) = r)
    (hk : ∀ {request}, decode env R req.body = .ok request → ∃ data',
      r = (.ok (!cast (hret request) (env.game (n request) s.world).1), s.called env (n request),
        data')) :
    Reports env f m req.body s r.2.1 (code r.1) ↔ ¬ Decodes env req.body f := by
  cases hdec : decode env R req.body with
  | error e =>
    rw [← hr]
    exact iff_of_true (undecoded_reports env req m s hd hdec k data) (not_decodes env req hd hdec)
  | ok request =>
    have hdecodes := hd.2 ⟨request, hdec⟩
    obtain ⟨data', ho⟩ := hk hdec
    refine iff_of_false ?_ (not_not_intro hdecodes)
    rw [ho, reports_called hdecodes rfl, code_ok, hcall]
    exact mistaken _

/-- The status of an action reports the result of the native exactly if the function checks it. -/
theorem outcome_reports {f : RouteFunction} (hf : f.isAction = true) :
    Reports env f m req.body s (f.outcome env req m s).2.1 (code (f.outcome env req m s).1) ↔
      ChecksNative env req.body s f := by
  cases f with
  | playerKick =>
    refine iff_of_true ?_ trivial
    refine named_reports env req m s (.inl rfl) .Kick (fun _ => rfl) (fun _ _ => rfl) _ ?_ _
    rw [PlayerManager.kick_run]
    cases findLogin (m.get "name".toList) (s.playerManager.players.toList env.order) with
    | none => rfl
    | some pl => exact pl.disconnect_run env s
  | playerBan =>
    refine iff_of_true ?_ trivial
    refine named_reports env req m s (.inr rfl) .Ban (fun _ => rfl) (fun _ _ => rfl) _ ?_ _
    rw [PlayerManager.ban_run]
    cases findLogin (m.get "name".toList) (s.playerManager.players.toList env.order) with
    | none => rfl
    | some pl => exact pl.ban_run env s
  | miscSay =>
    cases hdec : decode env SayRequest req.body with
    | error e =>
      refine iff_of_true (undecoded_reports env req m s Iff.rfl hdec _ _) fun request hr => ?_
      cases hdec.symm.trans hr
    | ok request =>
      have hd : Decodes env req.body miscSay := ⟨request, hdec⟩
      obtain ⟨data', ho⟩ := say_ends env req m s hdec _
      have ho' : outcome env miscSay req m s = _ := ho
      rw [ho', reports_called hd rfl]
      constructor
      · intro h request' hr
        cases hdec.symm.trans hr
        by_contra hne
        have hfalse : Call.succeeded ⟨.SendPlayerMessageToAll request.color
            (cStr (request.name ++ ": ".toList ++ request.message)), _⟩ = false :=
          Bool.eq_false_of_not_eq_true hne
        rw [hfalse] at h
        cases h
      · intro h
        have htrue : Call.succeeded ⟨.SendPlayerMessageToAll request.color
            (cStr (request.name ++ ": ".toList ++ request.message)), _⟩ = true := h request hdec
        rw [htrue]
        rfl
  | miscIpban =>
    exact opposite_reports env req m s
      (fun request : IpRequest =>
        .BlockIpAddress (cStr request.address) (request.time * 1000).toInt32)
      (fun _ => rfl) (fun _ _ => rfl) Iff.rfl rfl fun hdec => ipban_ends env req m s hdec _
  | miscIpunban =>
    exact opposite_reports env req m s
      (fun request : IpRequest => .UnBlockIpAddress (cStr request.address))
      (fun _ => rfl) (fun _ _ => rfl) Iff.rfl rfl fun hdec => ipunban_ends env req m s hdec _
  | settingsGamemodetext =>
    refine iff_of_true ?_ trivial
    exact change_reports env req m s (fun request => .SetGameModeText (cStr request.value))
      (fun _ => rfl) (fun _ _ => rfl) Iff.rfl (fun _ => rfl) _ _ _
  | settingsGravity =>
    refine iff_of_true ?_ trivial
    exact change_reports env req m s (fun request => .SetGravity request.gravity)
      (fun _ => rfl) (fun _ _ => rfl) Iff.rfl (fun _ => rfl) _ _ _
  | settingsWeather =>
    refine iff_of_true ?_ trivial
    exact change_reports env req m s (fun request => .SetWeather request.value.toInt32)
      (fun _ => rfl) (fun _ _ => rfl) Iff.rfl (fun _ => rfl) _ _ _
  | playerList => cases hf
  | miscEcho => cases hf
  | settingsList => cases hf

end Outcomes

end RouteFunction

open RouteFunction

/-- The response to an authorised request whose target fits a function, and the plugin behind it. -/
lemma handleRequest_outcome (env : Env W) {req : Request} (response : Response) {remote : Str}
    (p : Int) {s : Plugin W} (hs : s.handler.Registered)
    (ha : Handler.authorized env s.sampConfig s.handler req remote = true) {f : RouteFunction}
    {m : Match} (hm : f.captures req.target = some m) :
    ∃ r, Handler.handleRequest env req response remote p s =
        (.ok r, (f.ended env req m (s.checked env req remote)).tick) ∧
      r.result = code (f.outcome env req m (s.checked env req remote)).1 := by
  refine ⟨_, handleRequest_matched env req response remote p hs ha (chosen_eq_some.2 hm), ?_⟩
  exact message_code env f req m _ _

/-- An authorised request to a route that calls a native is answered, and the status reports what
    became of the native exactly if the function checks its result: always but for the routes that ban
    or unban an address, where only a body that does not decode is reported as it should be, and the
    route that sends a message, whose native has to return `true`. -/
theorem status_reports_iff (env : Env W) (req : Request) (response : Response) (remote : Str)
    (p : Int) {s : Plugin W} (hs : s.handler.Registered)
    (ha : (Handler.authorize env req remote s).1 = .ok true) {tmpl : Str} {f : RouteFunction}
    (hf : (tmpl, f) ∈ s.handler.routes.entries) (haction : f.isAction = true) {found : Match}
    (hm : Handler.Matches s.handler req.target tmpl found) :
    ∃ r q, Handler.handleRequest env req response remote p s = (.ok r, q) ∧
      (Reports env f found req.body s q r.result ↔ ChecksNative env req.body s f) := by
  rw [Handler.authorize_run] at ha
  obtain rfl := hs.eq_entry hf
  obtain ⟨r, hr, hcode⟩ :=
    handleRequest_outcome env response p hs (Except.ok.inj ha) ((Handler.matches_iff hs).1 hm)
  refine ⟨r, _, hr, ?_⟩
  rw [hcode]
  -- authorisation has changed neither the game nor the registry
  exact outcome_reports env req found (s.checked env req remote) haction

/-- The address is banned, and the answer is that this failed. -/
theorem banAddress_misreported :
    ∃ r q, Handler.handleRequest Demo.env Demo.banAddress {} Demo.remote 0 (Demo.plugin {}) =
        (.ok r, q) ∧
      ¬ Reports Demo.env .miscIpban {} Demo.banAddress.body (Demo.plugin {}) q r.result := by
  have hs : (Demo.plugin {}).handler.Registered := ⟨rfl, rfl⟩
  have ha : Handler.authorized Demo.env (Demo.plugin {}).sampConfig (Demo.plugin {}).handler
      Demo.banAddress Demo.remote = true := by decide +kernel
  have hm : RouteFunction.captures .miscIpban Demo.banAddress.target = some {} := by rfl
  obtain ⟨r, hr, hcode⟩ := handleRequest_outcome Demo.env {} 0 hs ha hm
  refine ⟨r, _, hr, fun h => ?_⟩
  rw [hcode] at h
  exact (outcome_reports Demo.env Demo.banAddress {} _ rfl).1 h ⟨⟨"1.2.3.4".toList, 60⟩, rfl⟩

/-- There is nobody to kick, and the answer is that this failed. -/
theorem status_reports_iff_kickBob :
    ∃ r q, Handler.handleRequest Demo.env Demo.kickBob {} Demo.remote 0 (Demo.plugin {}) =
        (.ok r, q) ∧
      Reports Demo.env .playerKick (Match.ofCaptures ["name".toList] ["bob".toList])
        Demo.kickBob.body (Demo.plugin {}) q r.result := by
  have hs : (Demo.plugin {}).handler.Registered := ⟨rfl, rfl⟩
  have hf : playerKick.entry ∈ (Demo.plugin {}).handler.routes.entries := hs.entry_mem _
  have hm := (Handler.matches_iff hs).2 (show captures .playerKick Demo.kickBob.target = _ from rfl)
  obtain ⟨r, q, hr, h⟩ := status_reports_iff Demo.env Demo.kickBob {} Demo.remote 0 hs (by rfl) hf
    rfl hm
  exact ⟨r, q, hr, h.2 trivial⟩

/-! ## All requests -/

lemma code_eq_200 {o : Except Exn Bool} : code o = 200 ↔ o = .ok true := by
  rcases o with e | _ | _
  · exact iff_of_false (by decide : (500 : Nat) ≠ 200) (by simp)
  · exact iff_of_false (by decide : (417 : Nat) ≠ 200) (by simp)
  · exact iff_of_true rfl rfl

/-- When the handler answers with 200. -/
lemma handleRequest_success (env : Env W) (req : Request) (response : Response) (remote : Str)
    (p : Int) {s : Plugin W} (hs : s.handler.Registered) :
    ∃ r q, Handler.handleRequest env req response remote p s = (.ok r, q) ∧
      (r.result = 200 ↔ Handler.authorized env s.sampConfig s.handler req remote = true ∧
        ∃ f m, RouteFunction.captures f req.target = some m ∧
          q.handled = s.handled ++ [⟨f, m, .ok true⟩]) := by
  cases ha : Handler.authorized env s.sampConfig s.handler req remote with
  | false =>
    refine ⟨_, _, handleRequest_unauthorised env req response remote p ha, ?_⟩
    exact iff_of_false (by decide : (401 : Nat) ≠ 200) fun h => by cases h.1
  | true =>
    cases hc : chosen req.target with
    | none =>
      refine ⟨_, _, handleRequest_unmatched env req response remote p hs ha hc, ?_⟩
      apply iff_of_false (by decide : (404 : Nat) ≠ 200)
      intro h
      obtain ⟨-, f, m, hm, -⟩ := h
      cases (chosen_eq_none.1 hc f).symm.trans hm
    | some fm =>
      obtain ⟨f, m⟩ := fm
      have hm := chosen_eq_some.1 hc
      obtain ⟨r, hr, hcode⟩ := handleRequest_outcome env response p hs ha hm
      refine ⟨r, _, hr, ?_⟩
      have hh := f.ended_handled env req m (s.checked env req remote)
      rw [hcode, code_eq_200]
      constructor
      · intro ho
        refine ⟨rfl, f, m, hm, ?_⟩
        rw [← ho]
        exact hh
      · intro h
        obtain ⟨-, g, m', hg, hq⟩ := h
        have hl := List.append_cancel_left (hh.symm.trans hq)
        cases captures_unique hm hg
        cases hm.symm.trans hg
        injection (List.cons.inj hl).1

/-- The status of what a session writes. For the methods that the handler gets, it is 200 exactly if
    the request was authorised, matches a template, and the function of that template returned `true`.
    Other methods run no function and are answered with an empty response, with the status 200 that
    the library gives it. -/
theorem success_iff (env : Env W) (req : Request) (remote : Str) (t : Int) (s : Plugin W)
    (hs : s.handler.Registered) :
    ∃ c q, Session.processRequest env (.reading req remote t) s = (.ok c, q) ∧
      (req.method.isHandled = true → (c.response.result = 200 ↔
        (Handler.authorize env req remote s).1 = .ok true ∧
        ∃ tmpl f found, (tmpl, f) ∈ s.handler.routes.entries ∧
          Handler.Matches s.handler req.target tmpl found ∧
          q.handled = s.handled ++ [⟨f, found, .ok true⟩])) ∧
      (req.method.isHandled = false → c.response.result = 200 ∧ c.response.body = [] ∧ q = s) := by
  cases hm : req.method.isHandled with
  | false =>
    have h := Session.processRequest_other env
      (show (Session.reading req remote t).request.method.isHandled = false from hm) s
    exact ⟨_, _, h, nofun, fun _ => ⟨rfl, rfl, rfl⟩⟩
  | true =>
    obtain ⟨r, q, hr, hiff⟩ := handleRequest_success env req (.headFor req) remote t hs
    have h := Session.processRequest_handled env
      (show (Session.reading req remote t).request.method.isHandled = true from hm)
      (show (Session.reading req remote t).socket = .connected remote from rfl) hr
    refine ⟨_, _, h, fun _ => ?_, nofun⟩
    rw [Handler.authorize_run]
    show r.result = 200 ↔ _
    rw [hiff]
    constructor
    · intro h
      obtain ⟨ha, f, m, hf, hq⟩ := h
      exact ⟨congrArg Except.ok ha, f.template.text, f, m, hs.entry_mem f,
        (Handler.matches_iff hs).2 hf, hq⟩
    · intro h
      obtain ⟨ha, tmpl, f, found, hf, hmatch, hq⟩ := h
      obtain rfl := hs.eq_entry hf
      exact ⟨Except.ok.inj ha, f, found, (Handler.matches_iff hs).1 hmatch, hq⟩

/-- A method that the handler does not get is answered with 200, although it is not authorised. -/
theorem put_success :
    ∃ c q, Session.processRequest Demo.env (.reading Demo.put Demo.remote 0) (Demo.plugin {}) =
        (.ok c, q) ∧
      c.response.result = 200 ∧
      (Handler.authorize Demo.env Demo.put Demo.remote (Demo.plugin {})).1 = .ok false :=
  ⟨_, _, rfl, rfl, rfl⟩

/-- A request that is not authorised is not answered with 200. -/
theorem success_iff_visit :
    ∃ c q, Session.processRequest Demo.env (.reading Demo.visit Demo.remote 0) (Demo.plugin {}) =
        (.ok c, q) ∧ c.response.result ≠ 200 := by
  obtain ⟨c, q, hr, h, -⟩ :=
    success_iff Demo.env Demo.visit Demo.remote 0 (Demo.plugin {}) ⟨rfl, rfl⟩
  have ha : (Handler.authorize Demo.env Demo.visit Demo.remote (Demo.plugin {})).1 = .ok false := by
    rfl
  refine ⟨c, q, hr, fun hc => ?_⟩
  cases ha.symm.trans ((h rfl).1 hc).1

end SampApi

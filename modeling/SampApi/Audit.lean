import SampApi.Listing
import SampApi.Serial
import SampApi.Status

/-!
# What is done and what is logged

What the endpoint makes the game do, and what it leaves in the log, over whole runs. A request asks for
at most one action of the game, and only if it is authorised and its route is one for an action
(`Server.asks`). In every run, however the sessions are served, the actions that the game was told to do
are those that the requests asked for, each once and in the order in which their handlers were run
(`acts_once`); and the lines in the log are those for the requests with wrong credentials and for the
messages to be logged (`log_exact`).
-/

namespace SampApi
open Lib RouteFunction

variable {W : Type}

/-! ## Actions -/

/-- The native changes something in the game. -/
def Native.acts : Native → Bool
  | Kick _ => true
  | Ban _ => true
  | SendPlayerMessageToAll _ _ => true
  | BlockIpAddress _ _ => true
  | UnBlockIpAddress _ => true
  | SetGameModeText _ => true
  | SetGravity _ => true
  | SetWeather _ => true
  | _ => false

/-- The actions among some calls, without the replies. -/
def actions (cs : List Call) : List Native := (cs.map Call.native).filter Native.acts

lemma actions_append (cs cs' : List Call) : actions (cs ++ cs') = actions cs ++ actions cs' := by
  rw [actions, List.map_append, List.filter_append]
  rfl

namespace RouteFunction

/-- The action that a request with a body of a type asks for. -/
def asksIn (env : Env W) (R : Type) [DefaultCodec R] (n : R → Native) (body : Str) : Option Native :=
  match decode env R body with
  | .ok request => some (n request)
  | .error _ => none

/-- The action that a request for a function asks for: a player with the name is to be removed, or the
    body says what to do. -/
def asks (env : Env W) (req : Request) (m : Match) (s : Plugin W) : RouteFunction → Option Native
  | playerKick =>
    (findLogin (m.get "name".toList) (s.playerManager.players.toList env.order)).map
      fun pl => .Kick pl.id
  | playerBan =>
    (findLogin (m.get "name".toList) (s.playerManager.players.toList env.order)).map
      fun pl => .Ban pl.id
  | miscSay =>
    asksIn env SayRequest (fun request => .SendPlayerMessageToAll request.color
      (cStr (request.name ++ ": ".toList ++ request.message))) req.body
  | miscIpban =>
    asksIn env IpRequest (fun request =>
      .BlockIpAddress (cStr request.address) (request.time * 1000).toInt32) req.body
  | miscIpunban =>
    asksIn env IpRequest (fun request => .UnBlockIpAddress (cStr request.address)) req.body
  | settingsGamemodetext =>
    asksIn env SimpleRequest (fun request => .SetGameModeText (cStr request.value)) req.body
  | settingsGravity => asksIn env GravityRequest (fun request => .SetGravity request.gravity) req.body
  | settingsWeather =>
    asksIn env SimpleIntRequest (fun request => .SetWeather request.value.toInt32) req.body
  | playerList => none
  | miscEcho => none
  | settingsList => none

/-- The lines that a request for a function writes to the log. -/
def lines (env : Env W) (req : Request) : RouteFunction → List Str
  | miscEcho =>
    match decode env SayRequest req.body with
    | .ok request => ["Message from ".toList ++ request.name ++ ": ".toList ++ request.message]
    | .error _ => []
  | _ => []

/-- A function has done the action that it was asked for, and nothing else in the game, and has written
    its lines to the log. -/
structure Does (env : Env W) (req : Request) (m : Match) (f : RouteFunction) (s q : Plugin W) :
    Prop where
  actions : actions q.calls = actions s.calls ++ (f.asks env req m s).toList
  log : q.log = s.log ++ f.lines env req

variable {env : Env W} {req : Request} {m : Match} {f : RouteFunction} {s q : Plugin W}

lemma Does.nothing (hasks : f.asks env req m s = none) (hlines : f.lines env req = [])
    (hcalls : SampApi.actions q.calls = SampApi.actions s.calls) (hlog : q.log = s.log) :
    f.Does env req m s q := by
  refine ⟨?_, ?_⟩
  · rw [hasks, hcalls]
    exact (List.append_nil _).symm
  · rw [hlines, hlog]
    exact (List.append_nil _).symm

lemma Does.once {n : Native} (hasks : f.asks env req m s = some n) (hacts : n.acts = true)
    (hlines : f.lines env req = []) (r : n.Ret) (hcalls : q.calls = s.calls ++ [⟨n, r⟩])
    (hlog : q.log = s.log) : f.Does env req m s q := by
  refine ⟨?_, ?_⟩
  · have hcall : SampApi.actions [⟨n, r⟩] = [n] := List.filter_cons_of_pos hacts
    rw [hasks, hcalls, actions_append, hcall]
    rfl
  · rw [hlines, hlog]
    exact (List.append_nil _).symm

lemma leaveAll_log (s : Plugin W) (ids : List UInt32) : (s.leaveAll ids).log = s.log := by
  induction ids generalizing s with
  | nil => rfl
  | cons id ids ih => exact ih (s.leave id)

/-! ## Functions behind routes -/

/-- The functions on a name do what is done to the first player with the name. -/
lemma onName_does {act : Str → Act W Bool} (done : String) (data : Message)
    (h : ∃ b q, act (m.get "name".toList) s = (.ok b, q) ∧ f.Does env req m s q) :
    f.Does env req m s (player.onName act done m (s, data)).2.1 := by
  obtain ⟨b, q, hact, hdoes⟩ := h
  obtain ⟨data', ho⟩ := onName_ends m done hact data
  rw [ho]
  exact hdoes

lemma kick_does : ∃ b q, PlayerManager.kick env (m.get "name".toList) s = (.ok b, q) ∧
    playerKick.Does env req m s q := by
  rw [PlayerManager.kick_run]
  cases hl : findLogin (m.get "name".toList) (s.playerManager.players.toList env.order) with
  | none => exact ⟨_, _, rfl, .nothing (congrArg (Option.map _) hl) rfl rfl rfl⟩
  | some pl =>
    have hasks : playerKick.asks env req m s = some (.Kick pl.id) := congrArg (Option.map _) hl
    refine ⟨_, _, pl.disconnect_run env s, ?_⟩
    exact .once hasks rfl rfl _ (Plugin.leaveAll_calls _ _) (leaveAll_log _ _)

lemma ban_does : ∃ b q, PlayerManager.ban env (m.get "name".toList) s = (.ok b, q) ∧
    playerBan.Does env req m s q := by
  rw [PlayerManager.ban_run]
  cases hl : findLogin (m.get "name".toList) (s.playerManager.players.toList env.order) with
  | none => exact ⟨_, _, rfl, .nothing (congrArg (Option.map _) hl) rfl rfl rfl⟩
  | some pl =>
    have hasks : playerBan.asks env req m s = some (.Ban pl.id) := congrArg (Option.map _) hl
    refine ⟨_, _, pl.ban_run env s, ?_⟩
    exact .once hasks rfl rfl _ (Plugin.leaveAll_calls _ _) (leaveAll_log _ _)

/-- A function that begins by decoding the body does nothing if the body does not decode, and else one
    action. -/
lemma decoded_does {T R : Type} [DefaultCodec R] {n : R → Native}
    (hacts : ∀ request, (n request).acts = true)
    (hasks : f.asks env req m s = asksIn env R n req.body) (hlines : f.lines env req = [])
    {k : R → Prog (Plugin W × T) Exn Bool} {data : T}
    (hk : ∀ request, decode env R req.body = .ok request →
      ((Prog.lift (decode env R req.body) >>= k) (s, data)).2.1 = s.called env (n request)) :
    f.Does env req m s ((Prog.lift (decode env R req.body) >>= k) (s, data)).2.1 := by
  cases hd : decode env R req.body with
  | error e =>
    rw [asksIn, hd] at hasks
    exact .nothing hasks hlines rfl rfl
  | ok request =>
    have hk := hk request hd
    rw [asksIn, hd] at hasks
    rw [hd] at hk
    rw [hk]
    exact .once hasks (hacts request) hlines _ rfl rfl

/-- The functions that change a setting. -/
lemma change_does {R : Type} [DefaultCodec R] {n : R → Native}
    (hacts : ∀ request, (n request).acts = true)
    (hasks : f.asks env req m s = asksIn env R n req.body) (hlines : f.lines env req = [])
    {set : R → Act W Bool}
    (hset : ∀ request, ∃ b, set request s = (.ok b, s.called env (n request)))
    (failure success : String) (data : Message) :
    f.Does env req m s (settings.change env R set failure success req (s, data)).2.1 := by
  refine decoded_does hacts hasks hlines fun request hd => ?_
  obtain ⟨b, hb⟩ := hset request
  obtain ⟨data', ho⟩ := change_ends env req failure success hd hb data
  exact congrArg (fun x => x.2.1) ho

/-- Listing the players asks for data only. -/
lemma pushPlayerData_does (env : Env W) (its : List (UInt32 × Player)) (data : List PlayerData)
    (s : Plugin W) :
    ∃ rows q, PlayerManager.pushPlayerData env its data s = (.ok rows, q) ∧
      SampApi.actions q.calls = SampApi.actions s.calls ∧ q.log = s.log := by
  induction its generalizing data s with
  | nil => exact ⟨data, s, rfl, rfl, rfl⟩
  | cons it its ih =>
    obtain ⟨row, t, -, -, hrun, hcalls⟩ := playerData_row env it.2 s
    have hlog : (PlayerManager.playerData env it.2 s).2.log = s.log := rfl
    obtain ⟨rows, q, hpush, hactions, hlog'⟩ := ih (data ++ [row.data]) t
    rw [hrun] at hlog
    refine ⟨rows, q, ?_, ?_, hlog'.trans hlog⟩
    · rw [PlayerManager.pushPlayerData, Prog.bind_ok hrun, hpush]
    · rw [hactions, hcalls, actions_append]
      exact List.append_nil _

/-- What a function behind a route has done when it ends. -/
theorem outcome_does (env : Env W) (f : RouteFunction) (req : Request) (m : Match) (s : Plugin W) :
    f.Does env req m s (f.outcome env req m s).2.1 := by
  cases f with
  | playerList =>
    obtain ⟨rows, q, hpush, hactions, hlog⟩ :=
      pushPlayerData_does env (s.playerManager.players.toList env.order) [] s
    have ho : outcome env playerList req m s = _ := list_run req m hpush
    rw [ho]
    exact .nothing rfl rfl hactions hlog
  | playerKick => exact onName_does _ _ kick_does
  | playerBan => exact onName_does _ _ ban_does
  | miscSay =>
    refine decoded_does (fun _ => rfl) rfl rfl fun request hd => ?_
    obtain ⟨data', ho⟩ := say_ends env req m s hd _
    exact congrArg (fun x => x.2.1) ho
  | miscEcho =>
    have ho : outcome env miscEcho req m s = misc.echo env req m (s, _) := rfl
    rw [ho, misc.echo]
    cases hd : decode env SayRequest req.body with
    | error e => exact ⟨(List.append_nil _).symm, by rw [lines, hd]; exact (List.append_nil _).symm⟩
    | ok request => exact ⟨(List.append_nil _).symm, by rw [lines, hd]; rfl⟩
  | miscIpban =>
    refine decoded_does (fun _ => rfl) rfl rfl fun request hd => ?_
    obtain ⟨data', ho⟩ := ipban_ends env req m s hd _
    exact congrArg (fun x => x.2.1) ho
  | miscIpunban =>
    refine decoded_does (fun _ => rfl) rfl rfl fun request hd => ?_
    obtain ⟨data', ho⟩ := ipunban_ends env req m s hd _
    exact congrArg (fun x => x.2.1) ho
  | settingsGamemodetext => exact change_does (fun _ => rfl) rfl rfl (fun _ => ⟨_, rfl⟩) _ _ _
  | settingsGravity => exact change_does (fun _ => rfl) rfl rfl (fun _ => ⟨_, rfl⟩) _ _ _
  | settingsWeather => exact change_does (fun _ => rfl) rfl rfl (fun _ => ⟨_, rfl⟩) _ _ _
  | settingsList =>
    refine .nothing rfl rfl ?_ rfl
    show actions (s.calls ++ [⟨.GetTickCount, _⟩] ++ [⟨.GetServerTickRate, _⟩] ++ [⟨.GetGravity, _⟩] ++
      [⟨.GetActorPoolSize, _⟩] ++ [⟨.GetVehiclePoolSize, _⟩] ++ [⟨.GetMaxPlayers, _⟩]) = _
    simp only [actions_append, List.append_assoc]
    exact List.append_nil _

end RouteFunction

/-! ## Requests -/

/-- The action that a request asks for: if it is authorised, the one that its function is asked for. -/
def Plugin.asks (env : Env W) (s : Plugin W) (req : Request) (remote : Str) : Option Native :=
  if Handler.authorized env s.sampConfig s.handler req remote then
    (chosen req.target).bind fun fm => fm.1.asks env req fm.2 s
  else none

/-- The lines that a request writes to the log. -/
def Plugin.lines (env : Env W) (s : Plugin W) (req : Request) (remote : Str) : List Str :=
  Handler.warnings env s.sampConfig s.handler req remote ++
    if Handler.authorized env s.sampConfig s.handler req remote then
      (chosen req.target).elim [] fun fm => fm.1.lines env req
    else []

/-- The check of a request does not change what is asked for. -/
lemma asks_checked (env : Env W) (f : RouteFunction) (req : Request) (m : Match) (s : Plugin W)
    (remote : Str) : f.asks env req m (s.checked env req remote) = f.asks env req m s := by
  cases f <;> rfl

/-- What the handler has done with a request. -/
lemma handleRequest_does (env : Env W) (req : Request) (response : Response) (remote : Str) (p : Int)
    {s : Plugin W} (hs : s.handler.Registered) :
    let q := (Handler.handleRequest env req response remote p s).2
    actions q.calls = actions s.calls ++ (s.asks env req remote).toList ∧
      q.log = s.log ++ s.lines env req remote := by
  intro q
  cases ha : Handler.authorized env s.sampConfig s.handler req remote with
  | false =>
    have hq : q = _ := congrArg Prod.snd (handleRequest_unauthorised env req response remote p ha)
    rw [hq, Plugin.asks, Plugin.lines, ha, if_neg Bool.false_ne_true, if_neg Bool.false_ne_true,
      List.append_nil]
    exact ⟨(List.append_nil _).symm, rfl⟩
  | true =>
    cases hc : chosen req.target with
    | none =>
      have hq : q = _ := congrArg Prod.snd (handleRequest_unmatched env req response remote p hs ha hc)
      rw [hq, Plugin.asks, Plugin.lines, ha, if_pos rfl, if_pos rfl, hc]
      refine ⟨(List.append_nil _).symm, ?_⟩
      rw [Option.elim_none, List.append_nil]
      rfl
    | some fm =>
      obtain ⟨f, m⟩ := fm
      have hq : q = _ := congrArg Prod.snd (handleRequest_matched env req response remote p hs ha hc)
      have hdoes := f.outcome_does env req m (s.checked env req remote)
      have hactions := hdoes.actions
      rw [asks_checked] at hactions
      rw [hq, Plugin.asks, Plugin.lines, ha, if_pos rfl, if_pos rfl, hc]
      refine ⟨hactions, hdoes.log.trans ?_⟩
      exact List.append_assoc ..

/-! ## Runs -/

namespace Server

/-- The action that an item asks for: there is one only if the item is a request for the handler. -/
def asks (env : Env W) (v : Server W) : Item W → Option Native
  | .request i req =>
    v.clients[i]?.bind fun d =>
      if req.method.isHandled then v.plugin.asks env req d.remote else none
  | _ => none

/-- The lines that an item writes to the log. -/
def lines (env : Env W) (v : Server W) : Item W → List Str
  | .request i req =>
    v.clients[i]?.elim [] fun d =>
      if req.method.isHandled then v.plugin.lines env req d.remote else []
  | _ => []

/-- One item does what it asks for. -/
lemma step_does (env : Env W) (v : Server W) (hv : v.plugin.handler.Registered) (item : Item W) :
    let q := (v.step env item).1.plugin
    actions q.calls = actions v.plugin.calls ++ (v.asks env item).toList ∧
      q.log = v.plugin.log ++ v.lines env item := by
  have hnothing : ∀ {q : Plugin W}, actions q.calls = actions v.plugin.calls → q.log = v.plugin.log →
      actions q.calls = actions v.plugin.calls ++ (none : Option Native).toList ∧
        q.log = v.plugin.log ++ [] := by
    intro q hcalls hlog
    exact ⟨hcalls.trans (List.append_nil _).symm, hlog.trans (List.append_nil _).symm⟩
  intro q
  cases item with
  | callback c =>
    cases c with
    | connect id =>
      refine hnothing ?_ rfl
      show actions (v.plugin.calls ++ [⟨.GetPlayerName id MAX_PLAYER_NAME, _⟩]) = _
      rw [actions_append]
      exact List.append_nil _
    | disconnect id => exact hnothing rfl rfl
  | game w => exact hnothing rfl rfl
  | accept remote => exact hnothing rfl rfl
  | request i req =>
    rw [asks, lines]
    cases hd : v.clients[i]? with
    | none =>
      have hq : q = v.plugin := by
        show (v.step env (.request i req)).1.plugin = _
        rw [Server.step, hd]
      rw [hq]
      exact hnothing rfl rfl
    | some d =>
      have hq : q = (v.plugin.step env (.request req d.remote d.init_time)).1 := by
        show (v.step env (.request i req)).1.plugin = _
        rw [Server.step, hd]
      rw [hq]
      rcases step_request env req d.remote d.init_time hv with ⟨hm, hstep⟩ | ⟨hm, r, q', hr, hstep⟩
      · rw [Option.bind_some, Option.elim_some, hm, hstep]
        exact hnothing rfl rfl
      · have hdoes := handleRequest_does env req (.headFor req) d.remote d.init_time hv
        rw [hr] at hdoes
        rw [Option.bind_some, Option.elim_some, hm, hstep]
        exact hdoes

/-- What a history has done. -/
lemma after_does (env : Env W) {v : Server W} (hv : v.plugin.handler.Registered)
    (history : List (Item W)) :
    let q := (after (step env) v history).plugin
    actions q.calls = actions v.plugin.calls ++
        collect (step env) (fun v item => (v.asks env item).toList) v history ∧
      q.log = v.plugin.log ++ collect (step env) (fun v item => v.lines env item) v history := by
  have hkept : ∀ (v : Server W) item, v.plugin.handler.Registered →
      (v.step env item).1.plugin.handler.Registered := fun v item hv =>
    (step_settings env hv item).registered hv
  refine ⟨?_, ?_⟩
  · exact after_collect (f := fun v : Server W => actions v.plugin.calls) hkept
      (fun v item hv => (v.step_does env hv item).1) hv history
  · exact after_collect (f := fun v : Server W => v.plugin.log) hkept
      (fun v item hv => (v.step_does env hv item).2) hv history

end Server

namespace System

/-- Each action is done once, and for a request that asked for it. In every run of the endpoint, in
    whatever order sessions are served and whatever the game does in between, the actions that the game
    was told to do are, one after the other, those that the authorised requests asked for, in the order
    in which their handlers were run: none is lost, none is done twice, and none is done otherwise. -/
theorem acts_once (env : Env W) {p : Plugin W} (hp : p.handler.Registered) {es : List (Event W)}
    {t : System W} (hr : run (step env) (initial p) es = some t) :
    let history := trace (step env) items (initial p) es
    actions t.plugin.calls = actions p.calls ++
      collect (Server.step env) (fun v item => (v.asks env item).toList) { plugin := p } history := by
  intro history
  have h := (initial_refines hp).of_run hr
  have hplugin : (after (Server.step env) { plugin := p } history).plugin = t.plugin := h.plugin
  rw [← hplugin]
  exact (Server.after_does env (v := { plugin := p }) hp history).1

/-- The player `bob` connects, and a client has him kicked. -/
def kicking : List (Event Demo.Game) := [
  .command .gameModeInit, .command (.callback (.connect 1)), .accepted (some ⟨Demo.remote, 40⟩),
  .command .processTick, .runAccept .waits, .readSome 0 40 (.complete Demo.kickBob), .runRead 0]

/-- He is kicked once. -/
theorem acts_once_kicking :
    ∃ t, run (step Demo.env) (initial (Demo.plugin { names := [(1, "bob".toList)] })) kicking = some t ∧
      actions t.plugin.calls = [.Kick 1] := by
  have hrun : (run (step Demo.env) (initial (Demo.plugin { names := [(1, "bob".toList)] }))
      kicking).isSome = true := by
    decide +kernel
  obtain ⟨t, hr⟩ := Option.isSome_iff_exists.1 hrun
  refine ⟨t, hr, ?_⟩
  rw [acts_once Demo.env ⟨rfl, rfl⟩ hr]
  decide +kernel

/-- The log is complete. In every run of the endpoint, the lines that were written to it are, one after
    the other, those for the requests of allowed clients with a wrong password or hash, and those for
    the messages of authorised requests to log one. -/
theorem log_exact (env : Env W) {p : Plugin W} (hp : p.handler.Registered) {es : List (Event W)}
    {t : System W} (hr : run (step env) (initial p) es = some t) :
    let history := trace (step env) items (initial p) es
    t.plugin.log = p.log ++ collect (Server.step env) (fun v item => v.lines env item) { plugin := p }
      history := by
  intro history
  have h := (initial_refines hp).of_run hr
  have hplugin : (after (Server.step env) { plugin := p } history).plugin = t.plugin := h.plugin
  rw [← hplugin]
  exact (Server.after_does env (v := { plugin := p }) hp history).2

/-- A client uses the body of a request for another target. -/
def reusing : List (Event Demo.Game) := [
  .command .gameModeInit, .accepted (some ⟨Demo.remote, 40⟩), .command .processTick, .runAccept .waits,
  .readSome 0 40 (.complete { Demo.banAddress with body := Demo.kickBob.body }), .runRead 0]

/-- That is logged. -/
theorem log_exact_reusing :
    ∃ t, run (step Demo.env) (initial (Demo.plugin {})) reusing = some t ∧
      t.plugin.log = [Handler.invalidPassword Demo.remote Demo.banAddress.target
        ⟨"pw".toList, 2398126755⟩ 371789582] := by
  have hrun : (run (step Demo.env) (initial (Demo.plugin {})) reusing).isSome = true := by
    decide +kernel
  obtain ⟨t, hr⟩ := Option.isSome_iff_exists.1 hrun
  refine ⟨t, hr, ?_⟩
  rw [log_exact Demo.env ⟨rfl, rfl⟩ hr]
  decide +kernel

end System
end SampApi

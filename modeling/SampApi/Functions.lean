import SampApi.Handler

/-!
# What the functions behind routes can do

The functions behind the routes are built from a few basic actions: native calls, removing a player
with the callbacks that the game makes during that, reading the registry, logging, decoding the body,
and reading and writing the message. So what each of these keeps, all functions keep (`RouteFunction.handler_built`):

* they leave the configuration, the handler and the record of functions alone (`handler_keeps`);
* they throw nothing but `decode_exception` (`handler_throws`).
-/

namespace SampApi
open Lib Prog

variable {W T : Type}

/-! ## Basic actions -/

/-- The actions on the plugin that the functions are built from. -/
inductive Basic (env : Env W) : {α : Type} → Act W α → Prop where
  | native (n : Native) (h : ∀ r, n.left r = []) : Basic env (native env n)
  | disconnect (pl : Player) : Basic env (pl.disconnect env)
  | ban (pl : Player) : Basic env (pl.ban env)
  | players : Basic env (Prog.gets fun s => s.playerManager.players.toList env.order)
  | log (line : Str) : Basic env (log line)

/-- The actions on the plugin and a message that the functions are built from. -/
inductive BasicOn (env : Env W) : {α : Type} → Prog (Plugin W × T) Exn α → Prop where
  | plugin {α : Type} {c : Act W α} : Basic env c → BasicOn env (onFst c)
  | decode {R : Type} [DefaultCodec R] (body : Str) : BasicOn env (Prog.lift (decode env R body))
  | get : BasicOn env (Prog.gets Prod.snd)
  | set (f : T → T) : BasicOn env (write f)

section Built
variable {env : Env W}

lemma native_built {n : Native} (h : ∀ r, n.left r = []) : Built (Basic env) (native env n) :=
  .basic (.native n h)

namespace PlayerManager

lemma playerData_built (pl : Player) : Built (Basic env) (playerData env pl) := by
  refine .bind (native_built fun _ => rfl) fun _ => ?_
  refine .bind (native_built fun _ => rfl) fun _ => ?_
  refine .bind (native_built fun _ => rfl) fun _ => ?_
  refine .bind (native_built fun _ => rfl) fun _ => ?_
  refine .bind (native_built fun _ => rfl) fun _ => ?_
  refine .bind (native_built fun _ => rfl) fun _ => ?_
  refine .bind (native_built fun _ => rfl) fun _ => ?_
  refine .bind (native_built fun _ => rfl) fun _ => ?_
  refine .bind (native_built fun _ => rfl) fun _ => ?_
  refine .bind (native_built fun _ => rfl) fun _ => ?_
  exact .pure _

lemma pushPlayerData_built (its : List (UInt32 × Player)) (data : List PlayerData) :
    Built (Basic env) (pushPlayerData env its data) := by
  induction its generalizing data with
  | nil => exact .pure data
  | cons it its ih => exact .bind (playerData_built it.2) fun d => ih (data ++ [d])

lemma getPlayerData_built (data : List PlayerData) : Built (Basic env) (getPlayerData env data) :=
  .bind (.basic .players) fun its => pushPlayerData_built its data

lemma forLogin_built {act : Player → Act W Bool} (hact : ∀ pl, Built (Basic env) (act pl))
    (name : Str) (its : List (UInt32 × Player)) : Built (Basic env) (forLogin act name its) := by
  induction its with
  | nil => exact .pure false
  | cons it its ih =>
    rw [forLogin]
    split
    · exact ih
    · exact hact it.2

lemma kick_built (name : Str) : Built (Basic env) (kick env name) :=
  .bind (.basic .players) fun its => forLogin_built (fun pl => .basic (.disconnect pl)) name its

lemma ban_built (name : Str) : Built (Basic env) (ban env name) :=
  .bind (.basic .players) fun its => forLogin_built (fun pl => .basic (.ban pl)) name its

end PlayerManager

/-! ## The functions -/

lemma onFst_built {α : Type} {c : Act W α} (h : Built (Basic env) c) :
    Built (BasicOn (T := T) env) (onFst c) := Built.onFst BasicOn.plugin h

lemma reply_built (text : Str) : Built (BasicOn env) (reply (W := W) text) := .basic (.set _)

/-- The end of a function: it fills the message in one of two ways. -/
lemma replies_built (b : Bool) (failure success : Str) (r r' : Bool) :
    Built (BasicOn env)
      (if b then do
        reply (W := W) failure
        return r
      else do
        reply success
        return r') := by
  cases b
  · exact .bind (reply_built _) fun _ => .pure _
  · exact .bind (reply_built _) fun _ => .pure _

lemma player.list_built (req : Request) (m : Match) : Built (BasicOn env) (player.list env req m) := by
  refine .bind (.basic .get) fun msg => ?_
  refine .bind (onFst_built (PlayerManager.getPlayerData_built _)) fun players => ?_
  exact .bind (.basic (.set _)) fun _ => .pure true

lemma player.onName_built {act : Str → Act W Bool} (hact : ∀ name, Built (Basic env) (act name))
    (done : String) (m : Match) : Built (BasicOn env) (player.onName act done m) :=
  .bind (onFst_built (hact _)) fun ok => replies_built (!ok) _ _ _ _

lemma misc.say_built (req : Request) (m : Match) : Built (BasicOn env) (misc.say env req m) := by
  refine .bind (.basic (.decode _)) fun request => ?_
  refine .bind (onFst_built (native_built fun _ => rfl)) fun _ => ?_
  exact .bind (reply_built _) fun _ => .pure true

lemma misc.echo_built (req : Request) (m : Match) : Built (BasicOn env) (misc.echo env req m) := by
  refine .bind (.basic (.decode _)) fun request => ?_
  refine .bind (onFst_built (.basic (.log _))) fun _ => ?_
  exact .bind (reply_built _) fun _ => .pure true

lemma misc.ipban_built (req : Request) (m : Match) : Built (BasicOn env) (misc.ipban env req m) := by
  refine .bind (.basic (.decode _)) fun request => ?_
  exact .bind (onFst_built (native_built fun _ => rfl)) fun ok => replies_built ok _ _ _ _

lemma misc.ipunban_built (req : Request) (m : Match) :
    Built (BasicOn env) (misc.ipunban env req m) := by
  refine .bind (.basic (.decode _)) fun request => ?_
  exact .bind (onFst_built (native_built fun _ => rfl)) fun ok => replies_built ok _ _ _ _

lemma settings.change_built {R : Type} [DefaultCodec R] {set : R → Act W Bool}
    (hset : ∀ request, Built (Basic env) (set request)) (failure success : String) (req : Request) :
    Built (BasicOn env) (settings.change env R set failure success req) := by
  refine .bind (.basic (.decode _)) fun request => ?_
  exact .bind (onFst_built (hset request)) fun ok => replies_built (!ok) _ _ _ _

lemma settings.list_built (req : Request) (m : Match) :
    Built (BasicOn env) (settings.list env req m) := by
  refine .bind (onFst_built (native_built fun _ => rfl)) fun _ => ?_
  refine .bind (onFst_built (native_built fun _ => rfl)) fun _ => ?_
  refine .bind (onFst_built (native_built fun _ => rfl)) fun _ => ?_
  refine .bind (onFst_built (native_built fun _ => rfl)) fun _ => ?_
  refine .bind (onFst_built (native_built fun _ => rfl)) fun _ => ?_
  refine .bind (onFst_built (native_built fun _ => rfl)) fun _ => ?_
  exact .bind (.basic (.set _)) fun _ => .pure true

/-- All functions behind routes are built from the basic actions. -/
theorem RouteFunction.handler_built (f : RouteFunction) (req : Request) (m : Match) :
    Built (BasicOn env) (f.handler env req m) := by
  cases f with
  | playerList => exact player.list_built req m
  | playerKick => exact player.onName_built PlayerManager.kick_built _ m
  | playerBan => exact player.onName_built PlayerManager.ban_built _ m
  | miscSay => exact misc.say_built req m
  | miscEcho => exact misc.echo_built req m
  | miscIpban => exact misc.ipban_built req m
  | miscIpunban => exact misc.ipunban_built req m
  | settingsGamemodetext => exact settings.change_built (fun _ => native_built fun _ => rfl) _ _ req
  | settingsGravity => exact settings.change_built (fun _ => native_built fun _ => rfl) _ _ req
  | settingsWeather => exact settings.change_built (fun _ => native_built fun _ => rfl) _ _ req
  | settingsList => exact settings.list_built req m

end Built

/-! ## What they keep -/

/-- The parts of the plugin that no function behind a route changes. -/
structure Plugin.Keeps (p q : Plugin W) : Prop where
  sampConfig : q.sampConfig = p.sampConfig
  handler : q.handler = p.handler
  handled : q.handled = p.handled
  readings : q.readings = p.readings

lemma Plugin.Keeps.refl (p : Plugin W) : p.Keeps p := ⟨rfl, rfl, rfl, rfl⟩

lemma Plugin.Keeps.trans {p q r : Plugin W} (h : p.Keeps q) (h' : q.Keeps r) : p.Keeps r :=
  ⟨h'.sampConfig.trans h.sampConfig, h'.handler.trans h.handler, h'.handled.trans h.handled,
    h'.readings.trans h.readings⟩

lemma Plugin.Keeps.leaveAll (p : Plugin W) (ids : List UInt32) : p.Keeps (p.leaveAll ids) := by
  induction ids generalizing p with
  | nil => exact .refl p
  | cons id ids ih =>
    have h : p.Keeps (p.leave id) := ⟨rfl, rfl, rfl, rfl⟩
    exact h.trans (ih (p.leave id))

lemma Basic.keeps {env : Env W} {α : Type} {c : Act W α} (h : Basic env c) :
    Frame Plugin.Keeps c := by
  intro p
  cases h with
  | native n => exact ⟨rfl, rfl, rfl, rfl⟩
  | disconnect pl =>
    rw [pl.disconnect_run]
    have hc : p.Keeps (p.called env (.Kick pl.id)) := ⟨rfl, rfl, rfl, rfl⟩
    exact hc.trans (.leaveAll _ _)
  | ban pl =>
    rw [pl.ban_run]
    have hc : p.Keeps (p.called env (.Ban pl.id)) := ⟨rfl, rfl, rfl, rfl⟩
    exact hc.trans (.leaveAll _ _)
  | players => exact .refl p
  | log line => exact ⟨rfl, rfl, rfl, rfl⟩

lemma BasicOn.keeps {env : Env W} {α : Type} {c : Prog (Plugin W × T) Exn α} (h : BasicOn env c) :
    Frame (fun s t => s.1.Keeps t.1) c := by
  intro s
  cases h with
  | plugin h => exact h.keeps s.1
  | decode body => exact .refl s.1
  | get => exact .refl s.1
  | set f => exact .refl s.1

/-- A function behind a route leaves the configuration, the handler and the records of functions and
    clock readings alone. -/
theorem RouteFunction.handler_keeps (env : Env W) (f : RouteFunction) (req : Request) (m : Match) :
    Frame (fun s t => s.1.Keeps t.1) (f.handler env req m) :=
  (f.handler_built req m).frame (fun s => .refl s.1) (fun h h' => h.trans h') BasicOn.keeps

/-! ## What they throw -/

lemma decode_throws {env : Env W} {R : Type} [DefaultCodec R] {body : Str} {e : Exn}
    (h : decode env R body = .error e) : ∃ what, e = .decode_exception what := by
  unfold decode at h
  split at h
  · cases h
  · cases h
    exact ⟨_, rfl⟩

lemma Basic.returns {env : Env W} {α : Type} {c : Act W α} (h : Basic env c) (p : Plugin W) :
    ∃ a, (c p).1 = .ok a := by
  cases h with
  | native n => exact ⟨_, rfl⟩
  | disconnect pl => exact ⟨_, congrArg Prod.fst (pl.disconnect_run env p)⟩
  | ban pl => exact ⟨_, congrArg Prod.fst (pl.ban_run env p)⟩
  | players => exact ⟨_, rfl⟩
  | log line => exact ⟨_, rfl⟩

lemma BasicOn.throws {env : Env W} {α : Type} {c : Prog (Plugin W × T) Exn α} (h : BasicOn env c)
    (s : Plugin W × T) (e : Exn) (he : (c s).1 = .error e) : ∃ what, e = .decode_exception what := by
  cases h with
  | plugin h =>
    obtain ⟨a, ha⟩ := h.returns s.1
    cases ha.symm.trans he
  | decode body => exact decode_throws he
  | get => cases he
  | set f => cases he

/-- A function behind a route throws nothing but `decode_exception`. -/
theorem RouteFunction.handler_throws {env : Env W} {f : RouteFunction} {req : Request} {m : Match}
    {s : Plugin W × f.Data} {e : Exn} (h : (f.handler env req m s).1 = .error e) :
    ∃ what, e = .decode_exception what :=
  (f.handler_built req m).throws (fun h => h.throws) s e h

end SampApi

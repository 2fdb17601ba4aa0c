import SampApi.Demo
import SampApi.Server

/-!
# Unauthorised requests leave no trace

An unauthorised request changes the url of the route, the log and the clock, and nothing else of the
plugin (`unauthorised_same`). Plugins that are the same up to these (`Plugin.Same`) do the same with
every input, and answer alike but for the time (`step_same`). By the unwinding rule
`Lib.outputs_purge` a run without its unauthorised requests then looks the same
(`unauthorised_noninterference`).
-/

namespace SampApi
open Lib Prog IsMessage

variable {W T : Type}

/-- The plugins are the same up to the url of the route, the log and the readings of the clock. -/
structure Plugin.Same (s t : Plugin W) : Prop where
  world : s.world = t.world
  calls : s.calls = t.calls
  callbacks : s.callbacks = t.callbacks
  handled : s.handled = t.handled
  playerManager : s.playerManager = t.playerManager
  settings : s.Settings t

namespace Plugin.Same

lemma refl (s : Plugin W) : s.Same s := ⟨rfl, rfl, rfl, rfl, rfl, .refl s⟩

lemma symm {s t : Plugin W} (h : s.Same t) : t.Same s :=
  ⟨h.world.symm, h.calls.symm, h.callbacks.symm, h.handled.symm, h.playerManager.symm,
    h.settings.sampConfig.symm, h.settings.password.symm, h.settings.seed.symm,
    h.settings.routes.symm, h.settings.cache.symm⟩

lemma trans {s t u : Plugin W} (h : s.Same t) (h' : t.Same u) : s.Same u :=
  ⟨h.world.trans h'.world, h.calls.trans h'.calls, h.callbacks.trans h'.callbacks,
    h.handled.trans h'.handled, h.playerManager.trans h'.playerManager,
    h.settings.trans h'.settings⟩

lemma called {s t : Plugin W} (h : s.Same t) (env : Env W) (n : Native) :
    (s.called env n).Same (t.called env n) := by
  refine ⟨?_, ?_, h.callbacks, h.handled, h.playerManager, ?_⟩
  · show (env.game n s.world).2 = (env.game n t.world).2
    rw [h.world]
  · show s.calls ++ [⟨n, (env.game n s.world).1⟩] = t.calls ++ [⟨n, (env.game n t.world).1⟩]
    rw [h.calls, h.world]
  · exact ⟨h.settings.sampConfig, h.settings.password, h.settings.seed, h.settings.routes,
      h.settings.cache⟩

lemma leave {s t : Plugin W} (h : s.Same t) (id : UInt32) : (s.leave id).Same (t.leave id) := by
  refine ⟨h.world, h.calls, ?_, h.handled, ?_, ?_⟩
  · show s.callbacks ++ [_] = t.callbacks ++ [_]
    rw [h.callbacks]
  · show s.playerManager.removePlayer id = t.playerManager.removePlayer id
    rw [h.playerManager]
  · exact ⟨h.settings.sampConfig, h.settings.password, h.settings.seed, h.settings.routes,
      h.settings.cache⟩

lemma leaveAll {s t : Plugin W} (h : s.Same t) (ids : List UInt32) :
    (s.leaveAll ids).Same (t.leaveAll ids) := by
  induction ids generalizing s t with
  | nil => exact h
  | cons id ids ih => exact ih (h.leave id)

lemma checked (s : Plugin W) (env : Env W) (req : Request) (remote : Str) :
    s.Same (s.checked env req remote) := ⟨rfl, rfl, rfl, rfl, rfl, rfl, rfl, rfl, rfl, rfl⟩

lemma errored (s : Plugin W) (env : Env W) (req : Request) (remote u : Str) :
    s.Same ((s.checked env req remote).withUrl u).tick :=
  ⟨rfl, rfl, rfl, rfl, rfl, rfl, rfl, rfl, rfl, rfl⟩

end Plugin.Same

/-! ## Functions behind routes -/

/-- The same plugins with the same message. -/
def SameWith (x y : Plugin W × T) : Prop := x.1.Same y.1 ∧ x.2 = y.2

lemma Basic.same {env : Env W} {α : Type} {c : Act W α} (h : Basic env c) :
    Rel Plugin.Same Eq c c := by
  intro s t hst
  cases h with
  | native n =>
    refine ⟨?_, hst.called env n⟩
    show (env.game n s.world).1 = (env.game n t.world).1
    rw [hst.world]
  | disconnect pl =>
    rw [pl.disconnect_run, pl.disconnect_run, hst.world]
    exact ⟨rfl, (hst.called env (.Kick pl.id)).leaveAll _⟩
  | ban pl =>
    rw [pl.ban_run, pl.ban_run, hst.world]
    exact ⟨rfl, (hst.called env (.Ban pl.id)).leaveAll _⟩
  | players =>
    refine ⟨?_, hst⟩
    show s.playerManager.players.toList env.order = t.playerManager.players.toList env.order
    rw [hst.playerManager]
  | log line =>
    refine ⟨rfl, hst.world, hst.calls, hst.callbacks, hst.handled, hst.playerManager, ?_⟩
    exact ⟨hst.settings.sampConfig, hst.settings.password, hst.settings.seed, hst.settings.routes,
      hst.settings.cache⟩

lemma BasicOn.same {env : Env W} {α : Type} {c : Prog (Plugin W × T) Exn α} (h : BasicOn env c) :
    Rel SameWith Eq c c := by
  intro x y hxy
  cases h with
  | plugin h =>
    obtain ⟨hr, hs⟩ := h.same x.1 y.1 hxy.1
    exact ⟨hr, hs, hxy.2⟩
  | decode body => exact ⟨agree_refl (fun _ => rfl) _, hxy⟩
  | get => exact ⟨hxy.2, hxy⟩
  | set f => exact ⟨rfl, hxy.1, congrArg f hxy.2⟩

namespace RouteFunction

/-- A function behind a route ends alike in plugins that are the same. -/
theorem outcome_same (env : Env W) (f : RouteFunction) (req : Request) (m : Match) {s t : Plugin W}
    (h : s.Same t) :
    (f.outcome env req m s).1 = (f.outcome env req m t).1 ∧
      (f.outcome env req m s).2.2 = (f.outcome env req m t).2.2 ∧
      (f.ended env req m s).Same (f.ended env req m t) := by
  obtain ⟨hr, hs, hd⟩ := (f.handler_built req m).rel (fun h => h.same) (s, _) (t, _) ⟨h, rfl⟩
  have ho : (f.outcome env req m s).1 = (f.outcome env req m t).1 := agree_eq hr
  refine ⟨ho, hd, hs.world, hs.calls, hs.callbacks, ?_, hs.playerManager, ?_⟩
  · show (f.outcome env req m s).2.1.handled ++ [⟨f, m, (f.outcome env req m s).1⟩] =
      (f.outcome env req m t).2.1.handled ++ [⟨f, m, (f.outcome env req m t).1⟩]
    rw [ho]
    exact congrArg (· ++ _) hs.handled
  · exact ⟨hs.settings.sampConfig, hs.settings.password, hs.settings.seed, hs.settings.routes,
      hs.settings.cache⟩

end RouteFunction

/-! ## Responses -/

/-- The responses that are written are the same, or they carry one message, with two times. -/
inductive Response.EqUpToTime (env : Env W) : Response → Response → Prop where
  | same (r : Response) : EqUpToTime env r r
  | carrying {T : Type} [IsMessage T] (r : Response) (data : T) (time time' : UInt32) :
    EqUpToTime env (r.carrying env data time).sized (r.carrying env data time').sized

/-- What the handler makes of one request in plugins that are the same. -/
theorem handleRequest_same (env : Env W) (req : Request) (response : Response) (remote : Str)
    (p p' : Int) {s t : Plugin W} (hs : s.handler.Registered) (h : s.Same t) :
    ∃ r r' s' t', Handler.handleRequest env req response remote p s = (.ok r, s') ∧
      Handler.handleRequest env req response remote p' t = (.ok r', t') ∧ s'.Same t' ∧
      r.sized.EqUpToTime env r'.sized := by
  have ht := h.settings.registered hs
  have hchecked : (s.checked env req remote).Same (t.checked env req remote) :=
    ((Plugin.Same.checked s env req remote).symm.trans h).trans (.checked t env req remote)
  have herrored : ((s.checked env req remote).withUrl req.target).tick.Same
      ((t.checked env req remote).withUrl req.target).tick :=
    ((Plugin.Same.errored s env req remote req.target).symm.trans h).trans
      (.errored t env req remote req.target)
  have hsame := h.settings.authorized env req remote
  cases ha : Handler.authorized env s.sampConfig s.handler req remote with
  | false =>
    have hr := handleRequest_unauthorised env req response remote p ha
    have hr' := handleRequest_unauthorised env req response remote p' (hsame.trans ha)
    exact ⟨_, _, _, _, hr, hr', herrored, .carrying ..⟩
  | true =>
    cases hc : chosen req.target with
    | none =>
      have hr := handleRequest_unmatched env req response remote p hs ha hc
      have hr' := handleRequest_unmatched env req response remote p' ht (hsame.trans ha) hc
      exact ⟨_, _, _, _, hr, hr', herrored, .carrying ..⟩
    | some fm =>
      obtain ⟨f, m⟩ := fm
      have hr := handleRequest_matched env req response remote p hs ha hc
      have hr' := handleRequest_matched env req response remote p' ht (hsame.trans ha) hc
      obtain ⟨ho, hd, he⟩ := f.outcome_same env req m hchecked
      rw [← ho, ← hd] at hr'
      refine ⟨_, _, _, _, hr, hr', ?_, .carrying ..⟩
      exact ⟨he.world, he.calls, he.callbacks, he.handled, he.playerManager,
        he.settings.sampConfig, he.settings.password, he.settings.seed, he.settings.routes,
        he.settings.cache⟩

/-! ## Inputs -/

/-- The input is a request that the plugin does not authorise. -/
def Input.unauthorised (env : Env W) (s : Plugin W) : Input W → Bool
  | request req remote _ =>
    match (Handler.authorize env req remote s).1 with
    | .ok b => !b
    | .error _ => false
  | callback _ => false
  | game _ => false

/-- The inputs are the same, up to the time at which a request came in. -/
inductive Input.EqUpToTime : Input W → Input W → Prop where
  | callback (c : Callback) : EqUpToTime (.callback c) (.callback c)
  | game (w : W) : EqUpToTime (.game w) (.game w)
  | request (req : Request) (remote : Str) (t t' : Int) :
    EqUpToTime (.request req remote t) (.request req remote t')

/-- One input, with all native calls that there were and the response that is written. -/
def Plugin.observe (env : Env W) (s : Plugin W) (e : Input W) :
    Plugin W × List Call × Option Response :=
  ((s.step env e).1, (s.step env e).1.calls, (s.step env e).2)

lemma unauthorised_request {env : Env W} {s : Plugin W} {req : Request} {remote : Str} {t : Int} :
    Input.unauthorised env s (.request req remote t) =
      !Handler.authorized env s.sampConfig s.handler req remote := by
  rw [Input.unauthorised, Handler.authorize_run]

/-- Plugins with the same settings do not authorise the same inputs. -/
lemma unauthorised_settings {p s : Plugin W} (h : p.Settings s) (env : Env W) (e : Input W) :
    e.unauthorised env s = e.unauthorised env p := by
  cases e with
  | callback c => rfl
  | game w => rfl
  | request req remote t => rw [unauthorised_request, unauthorised_request, h.authorized]

/-- An unauthorised request leaves the plugin the same, whatever its method is. -/
theorem unauthorised_same (env : Env W) {s : Plugin W} (hs : s.handler.Registered) {e : Input W}
    (h : e.unauthorised env s = true) : s.Same (s.step env e).1 := by
  cases e with
  | callback c => cases h
  | game w => cases h
  | request req remote t =>
    rw [unauthorised_request, Bool.not_eq_true'] at h
    rcases step_request env req remote t hs with ⟨-, hstep⟩ | ⟨-, r, q, hr, hstep⟩
    · rw [hstep]
      exact .refl s
    · rw [handleRequest_unauthorised env req _ remote t h] at hr
      cases hr
      rw [hstep]
      exact .errored s env req remote req.target

/-- Plugins that are the same stay so under the same input, and answer alike but for the time. -/
theorem step_same (env : Env W) {s t : Plugin W} (hs : s.handler.Registered) (h : s.Same t)
    {e f : Input W} (hef : e.EqUpToTime f) :
    (s.step env e).1.Same (t.step env f).1 ∧
      Option.Rel (Response.EqUpToTime env) (s.step env e).2 (t.step env f).2 := by
  cases hef with
  | callback c =>
    refine ⟨?_, .none⟩
    cases c with
    | disconnect id => exact h.leave id
    | connect id =>
      have hc := h.called env (.GetPlayerName id MAX_PLAYER_NAME)
      refine ⟨hc.world, hc.calls, ?_, h.handled, ?_, ?_⟩
      · show s.callbacks ++ [_] = t.callbacks ++ [_]
        rw [h.callbacks]
      · show (⟨s.playerManager.players.emplace id ⟨id, stored MAX_PLAYER_NAME
          (env.game (.GetPlayerName id MAX_PLAYER_NAME) s.world).1⟩⟩ : PlayerManager) = ⟨_⟩
        rw [h.world, h.playerManager]
      · exact ⟨h.settings.sampConfig, h.settings.password, h.settings.seed, h.settings.routes,
          h.settings.cache⟩
  | game w =>
    refine ⟨⟨rfl, h.calls, h.callbacks, h.handled, h.playerManager, ?_⟩, .none⟩
    exact ⟨h.settings.sampConfig, h.settings.password, h.settings.seed, h.settings.routes,
      h.settings.cache⟩
  | request req remote time time' =>
    obtain ⟨r, r', s', t', hr, hr', hst, hrr⟩ :=
      handleRequest_same env req (.headFor req) remote time time' hs h
    rcases step_request env req remote time hs with ⟨hm, hstep⟩ | ⟨hm, r₁, q₁, h₁, hstep⟩
    · rcases step_request env req remote time' (h.settings.registered hs) with
        ⟨-, hstep'⟩ | ⟨hm', -⟩
      · rw [hstep, hstep']
        exact ⟨h, .some (.same _)⟩
      · cases hm.symm.trans hm'
    · rcases step_request env req remote time' (h.settings.registered hs) with
        ⟨hm', -⟩ | ⟨-, r₂, q₂, h₂, hstep'⟩
      · cases hm.symm.trans hm'
      · cases h₁.symm.trans hr
        cases h₂.symm.trans hr'
        rw [hstep, hstep']
        exact ⟨hst, .some hrr⟩

/-- Unauthorised requests for the handler are answered alike but for the time, in any two plugins. -/
lemma unauthorised_answer (env : Env W) {s : Plugin W} {req : Request} {remote : Str} {t : Int}
    (h : Input.unauthorised env s (.request req remote t) = true)
    (hm : req.method.isHandled = true) :
    ∃ time, (s.step env (.request req remote t)).2 =
      some (Handler.errorResponse env (.headFor req) 401 "Unauthorized" time).sized := by
  rw [unauthorised_request, Bool.not_eq_true'] at h
  have hr := handleRequest_unauthorised env req (.headFor req) remote t h
  have hp := Session.processRequest_handled env
    (show (Session.reading req remote t).request.method.isHandled = true from hm)
    (show (Session.reading req remote t).socket = .connected remote from rfl) hr
  refine ⟨(s.checked env req remote).elapsed env t, ?_⟩
  rw [Plugin.step, hp]
  rfl

end SampApi

import SampApi.Demo
import SampApi.Server
import SampApi.Startup

/-!
# Who is authorised

`Permitted` says whom a configuration file permits to do what, in terms of the lines of the file. A
plugin that was loaded with the file decides so in every state it ever reaches (`authorize_iff`): the
values that `Load` has moved into the handler and the configuration are those of the file, and nothing
changes them.
-/

namespace SampApi
open Lib

variable {W : Type}

/-- The file permits the request of a client: the client is in the whitelist, if there is one, and
    the body has the password of the file and the hash of the target with the seed of the file. -/
def Permitted (env : Env W) (text : Str) (req : Request) (remote : Str) : Prop :=
  (∀ values, Config.firstValues "api_ip_whitelist".toList text = some values → remote ∈ values) ∧
  ∃ password seed body, passwordIn text = some password ∧ stoul (seedIn text) = .ok seed ∧
    decode env BodyRequest req.body = .ok body ∧ body.password = password ∧
    body.hash = env.XXH32 req.target (UInt32.ofNat seed)

lemma whitelisted_load (text remote : Str) :
    Handler.whitelisted (Config.load {} (some text)).2 remote = true ↔
      ∀ values, Config.firstValues "api_ip_whitelist".toList text = some values →
        remote ∈ values := by
  rw [Handler.whitelisted, Config.getAll, Config.load_find?]
  cases h : Config.firstValues "api_ip_whitelist".toList text with
  | none => simp
  | some values =>
    have hne := Config.firstValues_ne_nil h
    simp [hne]

/-- A handler with the settings of a file decides as the file says. -/
lemma authorized_iff (env : Env W) {text password : Str} {seed : Nat}
    (hp : passwordIn text = some password) (hs : stoul (seedIn text) = .ok seed) (port : UInt16)
    (req : Request) (remote : Str) :
    Handler.authorized env (Config.load {} (some text)).2 (startedEndpoint port password seed).handler
        req remote = true ↔ Permitted env text req remote := by
  rw [Handler.authorized, Bool.and_eq_true, whitelisted_load]
  refine and_congr_right fun _ => ?_
  cases hd : decode env BodyRequest req.body with
  | error e =>
    refine iff_of_false Bool.false_ne_true ?_
    intro h
    obtain ⟨_, _, body, -, -, h, -⟩ := h
    cases h
  | ok body =>
    show Handler.credible env _ req.target body = true ↔ _
    rw [Handler.credible, Bool.and_eq_true, decide_eq_true_iff, decide_eq_true_iff]
    constructor
    · intro h
      obtain ⟨hpw, hhash⟩ := h
      exact ⟨password, seed, body, hp, hs, rfl, hpw, hhash⟩
    · intro h
      obtain ⟨password', seed', body', hp', hs', hd', hpw, hhash⟩ := h
      cases hp.symm.trans hp'
      cases hs.symm.trans hs'
      cases hd'
      exact ⟨hpw, hhash⟩

/-- Files with the same lines for the three settings permit the same. -/
lemma permitted_congr (env : Env W) {text text' : Str}
    (hw : Config.firstValues "api_ip_whitelist".toList text' =
      Config.firstValues "api_ip_whitelist".toList text)
    (hp : Config.firstValues "api_password".toList text' =
      Config.firstValues "api_password".toList text)
    (hs : Config.firstValues "api_seed".toList text' = Config.firstValues "api_seed".toList text)
    (req : Request) (remote : Str) :
    Permitted env text' req remote ↔ Permitted env text req remote := by
  have hp' : passwordIn text' = passwordIn text := congrArg (fun x => Option.bind x List.head?) hp
  have hs' : seedIn text' = seedIn text :=
    congrArg (fun x => (Option.bind x List.head?).getD "17733194".toList) hs
  rw [Permitted, Permitted, hw, hp', hs']

/-- When `Load` succeeds with a configuration file, authorisation decides as the file says, in every
    state that the plugin ever reaches; and files with the same lines for the whitelist, the password
    and the seed decide the same, whatever else is in them. -/
theorem authorize_iff (env : Env W) {host : Host} {text : Str} {g : Globals}
    (hc : host.content "server.cfg".toList = some text) (hl : load host {} = (.ok true, g)) :
    ∃ e, g.e = some e ∧
      (∀ world es s req remote, run (System.step env) (g.system e world) es = some s →
        ∃ b, (Handler.authorize env req remote s.plugin).1 = .ok b ∧
          (b = true ↔ Permitted env text req remote)) ∧
      (∀ text', Config.firstValues "api_ip_whitelist".toList text' =
          Config.firstValues "api_ip_whitelist".toList text →
        Config.firstValues "api_password".toList text' =
          Config.firstValues "api_password".toList text →
        Config.firstValues "api_seed".toList text' = Config.firstValues "api_seed".toList text →
        ∀ req remote, Permitted env text' req remote ↔ Permitted env text req remote) := by
  have h := load_loads host
  rw [hl] at h
  generalize ho : (.ok true : Except Exn Bool) = outcome at h
  cases h with
  | logThrows _ => cases ho
  | logFails _ _ => cases ho
  | noFile _ _ _ => cases ho
  | noPassword _ _ _ _ => cases ho
  | throws _ _ _ _ => cases ho
  | @starts text' password port seed _ _ hc' hp _ hs he hconfig =>
    cases hc.symm.trans hc'
    refine ⟨_, he, ?_, fun text' hw hp hs req remote => permitted_congr env hw hp hs req remote⟩
    intro world es s req remote hr
    -- the settings are still those that the plugin was loaded with
    have hset := System.run_settings env (s := g.system (startedEndpoint port password seed) world)
      ⟨rfl, rfl⟩ hr
    refine ⟨_, congrArg Prod.fst (Handler.authorize_run env req remote s.plugin), ?_⟩
    rw [hset.authorized, ← authorized_iff env hp hs port]
    show Handler.authorized env (g.sampConfig.getD {}) _ req remote = true ↔ _
    rw [hconfig]
    exact Iff.rfl

/-- A plugin that was loaded with a password and nothing else authorises the one who knows it. -/
theorem authorize_iff_kickBob :
    ∃ e, (load (Demo.host true "api_password pw".toList) {}).2.e = some e ∧
      (Handler.authorize Demo.env Demo.kickBob Demo.remote
        ((load (Demo.host true "api_password pw".toList) {}).2.system e {}).plugin).1 = .ok true := by
  have hload : (load (Demo.host true "api_password pw".toList) {}).1 = .ok true := by rfl
  have hc : (Demo.host true "api_password pw".toList).content "server.cfg".toList =
      some "api_password pw".toList := rfl
  have hpermitted : Permitted Demo.env "api_password pw".toList Demo.kickBob Demo.remote :=
    ⟨nofun, "pw".toList, 17733194, ⟨"pw".toList, 2398126755⟩, by decide, by rfl, by rfl, rfl, by rfl⟩
  generalize hl : load (Demo.host true "api_password pw".toList) {} = r at hload ⊢
  obtain ⟨_, g⟩ := r
  cases hload
  obtain ⟨e, he, h, -⟩ := authorize_iff Demo.env hc hl
  obtain ⟨b, hb, hiff⟩ := h {} [] _ Demo.kickBob Demo.remote rfl
  refine ⟨e, he, ?_⟩
  rw [hiff.2 hpermitted] at hb
  exact hb

end SampApi

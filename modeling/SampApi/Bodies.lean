import SampApi.Codecs

/-!
# What a body has to have

Which status a request gets, by the members of the object in its body. `Plugin.Permits` is what a
request needs to be authorised, and `RouteFunction.Parameters` what the function behind a route needs, both
in terms of these members; they are what the codecs of `BodyRequest` (`decode_body_iff`) and of the
functions (`decodes_iff`) read. `statuses_iff` is about the handler as a whole: a request that lacks
something gets the status that says so, and nothing is done for it.
-/

namespace SampApi
open Lib DefaultCodec

variable {T W : Type}

/-! ## Fields -/

/-- There is a value under the name that is one of those that `f` makes. -/
def HasValue {α : Type} (f : α → Value) (members : List (Str × Value)) (name : String) : Prop :=
  ∃ a, members.lookup name.toList = some (f a)

/-- There is a text under the name. -/
def HasString : List (Str × Value) → String → Prop := HasValue .string

/-- There is a number of 32 bits without sign under the name. -/
def HasUInt32 : List (Str × Value) → String → Prop := HasValue fun n : UInt32 => .number n.toNat

/-- There is a number of 32 bits with a sign under the name. -/
def HasInt32 : List (Str × Value) → String → Prop := HasValue fun n : Int32 => .number n.toInt

/-- There is a real number under the name. -/
def HasFloat : List (Str × Value) → String → Prop := HasValue .real

/-- There is nothing under the name. -/
def HasNone (members : List (Str × Value)) (name : String) : Prop :=
  members.lookup name.toList = none

section Fields
variable {members : List (Str × Value)}

/-- A required field accepts what fits its member. -/
lemma accepts_required {name : String} {member : Member T} :
    (required name member).Accepts members ↔
      ∃ v, members.lookup name.toList = some v ∧ member.Fits v := by
  simp [Field.Accepts, required]

/-- A field that may be absent accepts that, too. -/
lemma accepts_optional {name : String} {member : Member T} :
    (optional name member).Accepts members ↔
      HasNone members name ∨ ∃ v, members.lookup name.toList = some v ∧ member.Fits v := by
  simp [Field.Accepts, optional, HasNone, or_comm]

/-- A member that can hold the values that `f` makes is there with one of them. -/
lemma hasValue_iff {α : Type} {f : α → Value} {member : Member T} {name : String}
    (h : ∀ v, member.Fits v ↔ ∃ a, v = f a) :
    (∃ v, members.lookup name.toList = some v ∧ member.Fits v) ↔ HasValue f members name := by
  constructor
  · intro hv
    obtain ⟨v, hv, hfits⟩ := hv
    obtain ⟨a, rfl⟩ := (h v).1 hfits
    exact ⟨a, hv⟩
  · intro ha
    obtain ⟨a, ha⟩ := ha
    exact ⟨f a, ha, (h _).2 ⟨a, rfl⟩⟩

lemma hasString_iff {name : String} {get : T → Str} {set : Str → T → T} :
    (∃ v, members.lookup name.toList = some v ∧ (Member.string get set).Fits v) ↔
      HasString members name := hasValue_iff fun _ => Iff.rfl

lemma hasUInt32_iff {name : String} {get : T → UInt32} {set : UInt32 → T → T} :
    (∃ v, members.lookup name.toList = some v ∧ (Member.uint32 get set).Fits v) ↔
      HasUInt32 members name := hasValue_iff fun _ => Iff.rfl

lemma hasInt32_iff {name : String} {get : T → Int32} {set : Int32 → T → T} :
    (∃ v, members.lookup name.toList = some v ∧ (Member.int32 get set).Fits v) ↔
      HasInt32 members name := hasValue_iff fun _ => Iff.rfl

lemma hasFloat_iff {name : String} {get : T → Single} {set : Single → T → T} :
    (∃ v, members.lookup name.toList = some v ∧ (Member.float get set).Fits v) ↔
      HasFloat members name := hasValue_iff fun _ => Iff.rfl

end Fields

/-! ## Parameters -/

namespace RouteFunction

/-- The members have the parameters of the function. -/
def Parameters (members : List (Str × Value)) : RouteFunction → Prop
  | miscSay =>
    HasInt32 members "color" ∧ HasString members "name" ∧ HasString members "message"
  | miscEcho =>
    HasInt32 members "color" ∧ HasString members "name" ∧ HasString members "message"
  | miscIpban => HasString members "address" ∧ (HasNone members "time" ∨ HasUInt32 members "time")
  | miscIpunban => HasString members "address" ∧ (HasNone members "time" ∨ HasUInt32 members "time")
  | settingsGamemodetext => HasString members "value"
  | settingsGravity => HasFloat members "gravity"
  | settingsWeather => HasUInt32 members "value"
  | playerList => True
  | playerKick => True
  | playerBan => True
  | settingsList => True

end RouteFunction

section Parameters
variable {env : Env W} {body : Str} {members : List (Str × Value)}

lemma decode_say_iff (h : env.ReadsAs body members) :
    (∃ request, decode env SayRequest body = .ok request) ↔
      HasInt32 members "color" ∧ HasString members "name" ∧ HasString members "message" := by
  rw [decode_ok_iff (h SayRequest)]
  simp only [codec, List.forall_mem_cons, List.not_mem_nil, false_implies, implies_true, and_true,
    accepts_required, hasInt32_iff, hasString_iff]

lemma decode_ip_iff (h : env.ReadsAs body members) :
    (∃ request, decode env IpRequest body = .ok request) ↔
      HasString members "address" ∧ (HasNone members "time" ∨ HasUInt32 members "time") := by
  rw [decode_ok_iff (h IpRequest)]
  simp only [codec, List.forall_mem_cons, List.not_mem_nil, false_implies, implies_true, and_true,
    accepts_required, accepts_optional, hasUInt32_iff, hasString_iff]

open RouteFunction in
/-- A function can decode a body exactly if it has the parameters. -/
lemma decodes_iff (h : env.ReadsAs body members) (f : RouteFunction) :
    Decodes env body f ↔ f.Parameters members := by
  cases f with
  | miscSay => exact decode_say_iff h
  | miscEcho => exact decode_say_iff h
  | miscIpban => exact decode_ip_iff h
  | miscIpunban => exact decode_ip_iff h
  | settingsGamemodetext =>
    apply (decode_ok_iff (h SimpleRequest)).trans
    apply List.forall_mem_singleton.trans
    exact accepts_required.trans hasString_iff
  | settingsGravity =>
    apply (decode_ok_iff (h GravityRequest)).trans
    apply List.forall_mem_singleton.trans
    exact accepts_required.trans hasFloat_iff
  | settingsWeather =>
    apply (decode_ok_iff (h SimpleIntRequest)).trans
    apply List.forall_mem_singleton.trans
    exact accepts_required.trans hasUInt32_iff
  | playerList => exact Iff.rfl
  | playerKick => exact Iff.rfl
  | playerBan => exact Iff.rfl
  | settingsList => exact Iff.rfl

/-! ## Credentials -/

/-- The credentials that are read from a body are its password and hash. -/
lemma decode_body_iff (h : env.ReadsAs body members) (password : Str) (hash : UInt32) :
    decode env BodyRequest body = .ok ⟨password, hash⟩ ↔
      members.lookup "password".toList = some (.string password) ∧
        members.lookup "hash".toList = some (.number hash.toNat) := by
  constructor
  · intro hd
    have hfields := (decode_ok_iff (h BodyRequest)).1 ⟨_, hd⟩
    simp only [codec, List.forall_mem_cons, List.not_mem_nil, false_implies, implies_true, and_true,
      accepts_required, hasUInt32_iff, hasString_iff] at hfields
    obtain ⟨⟨password', hp⟩, hash', hh⟩ := hfields
    cases hd.symm.trans (h.decode_body hp hh)
    exact ⟨hp, hh⟩
  · intro hm
    exact h.decode_body hm.1 hm.2

/-- The client is allowed, and the members have the password of the plugin and the hash of the target. -/
structure Plugin.Permits (env : Env W) (s : Plugin W) (req : Request) (remote : Str)
    (members : List (Str × Value)) : Prop where
  whitelist : Handler.whitelisted s.sampConfig remote = true
  password : members.lookup "password".toList = some (.string (s.handler.password.getD []))
  hash : members.lookup "hash".toList =
    some (.number (env.XXH32 req.target (s.handler.seed.getD 0)).toNat)

lemma authorized_iff_permits {s : Plugin W} {req : Request} {remote : Str}
    (h : env.ReadsAs req.body members) :
    Handler.authorized env s.sampConfig s.handler req remote = true ↔
      s.Permits env req remote members := by
  rw [Handler.authorized, Bool.and_eq_true]
  constructor
  · intro ha
    obtain ⟨hw, ha⟩ := ha
    cases hd : decode env BodyRequest req.body with
    | error e =>
      rw [hd] at ha
      cases ha
    | ok b =>
      rw [hd] at ha
      obtain ⟨hp, hh⟩ := Bool.and_eq_true_iff.1 ha
      obtain ⟨hp', hh'⟩ := (decode_body_iff h b.password b.hash).1 hd
      exact ⟨hw, of_decide_eq_true hp ▸ hp', of_decide_eq_true hh ▸ hh'⟩
  · intro hp
    have hd := (decode_body_iff h _ _).2 ⟨hp.password, hp.hash⟩
    refine ⟨hp.whitelist, ?_⟩
    rw [hd]
    simp [Handler.credible]

end Parameters

/-! ## Statuses -/

/-- A route of the table matches the target, and leads to the function. -/
def Handler.RoutesTo (h : Handler) (u : Str) (f : RouteFunction) : Prop :=
  ∃ tmpl found, (tmpl, f) ∈ h.routes.entries ∧ h.Matches u tmpl found

lemma routesTo_iff {s : Plugin W} (hs : s.handler.Registered) {u : Str} {f : RouteFunction} :
    s.handler.RoutesTo u f ↔ ∃ m, chosen u = some (f, m) := by
  constructor
  · intro h
    obtain ⟨tmpl, found, hf, hm⟩ := h
    obtain rfl := hs.eq_entry hf
    exact ⟨found, chosen_eq_some.2 ((Handler.matches_iff hs).1 hm)⟩
  · intro h
    obtain ⟨m, hm⟩ := h
    exact ⟨f.entry.1, m, hs.entry_mem f, (Handler.matches_iff hs).2 (chosen_eq_some.1 hm)⟩

/-- How a request ends, by what its body has. -/
inductive Handler.Ends (env : Env W) (s : Plugin W) (req : Request) (remote : Str)
    (members : List (Str × Value)) (result : Nat) (q : Plugin W) : Prop where
  | unauthorised : ¬ s.Permits env req remote members → result = 401 → s.Alike q →
    Ends env s req remote members result q
  | unmatched : s.Permits env req remote members → (∀ f, ¬ s.handler.RoutesTo req.target f) →
    result = 404 → s.Alike q → Ends env s req remote members result q
  | incomplete {f : RouteFunction} : s.Permits env req remote members →
    s.handler.RoutesTo req.target f → ¬ f.Parameters members → result = 500 → s.Alike q →
    Ends env s req remote members result q
  | complete {f : RouteFunction} : s.Permits env req remote members →
    s.handler.RoutesTo req.target f → f.Parameters members → result = 200 ∨ result = 417 →
    Ends env s req remote members result q

/-- The handler answers every request in one of these ways. -/
lemma handleRequest_status (env : Env W) (req : Request) (response : Response) (remote : Str) (p : Int)
    {s : Plugin W} (hs : s.handler.Registered) {members : List (Str × Value)}
    (hb : env.ReadsAs req.body members) :
    ∃ r q, Handler.handleRequest env req response remote p s = (.ok r, q) ∧
      Handler.Ends env s req remote members r.result q := by
  cases ha : Handler.authorized env s.sampConfig s.handler req remote with
  | false =>
    refine ⟨_, _, handleRequest_unauthorised env req response remote p ha, ?_⟩
    refine .unauthorised (fun h => ?_) rfl ⟨rfl, rfl, rfl, rfl⟩
    cases ha.symm.trans ((authorized_iff_permits hb).2 h)
  | true =>
    have hpermits := (authorized_iff_permits hb).1 ha
    cases hc : chosen req.target with
    | none =>
      refine ⟨_, _, handleRequest_unmatched env req response remote p hs ha hc, ?_⟩
      refine .unmatched hpermits (fun f h => ?_) rfl ⟨rfl, rfl, rfl, rfl⟩
      obtain ⟨m, hm⟩ := (routesTo_iff hs).1 h
      cases hc.symm.trans hm
    | some fm =>
      obtain ⟨f, m⟩ := fm
      have hroutes : s.handler.RoutesTo req.target f := (routesTo_iff hs).2 ⟨m, hc⟩
      obtain ⟨r, hrun, hresult⟩ :=
        handleRequest_outcome env response p hs ha (chosen_eq_some.1 hc)
      refine ⟨r, _, hrun, ?_⟩
      rcases f.outcome_ends env req m (s.checked env req remote) with
        ⟨b, y, ho, hd⟩ | ⟨what, ho, hd⟩
      · refine .complete hpermits hroutes ((decodes_iff hb f).1 hd) ?_
        rw [hresult, ho]
        cases b with
        | true => exact .inl rfl
        | false => exact .inr rfl
      · rw [ho] at hresult
        refine .incomplete hpermits hroutes (fun h => hd ((decodes_iff hb f).2 h)) hresult ?_
        rw [RouteFunction.ended, ho]
        exact ⟨rfl, rfl, rfl, rfl⟩

section Example
open Demo

/-- The request to ban an address with the parameters that the documentation gives it. -/
def Demo.banDocumented : Request where
  method := .post
  target := "/misc/ip/ban".toList
  body := "\x7b\"password\":\"pw\",\"hash\":371789582,\"ip\":\"1.2.3.4\",\"time\":60\x7d".toList

end Example

end SampApi

import SampApi.Authentic
import SampApi.XXHash.Spread

/-!
# Credentials

What the credentials in a body are good for, when the plugin is linked with the hash function of
`src/share/xxhash.c` (`Env.linked`). They are good for one target only: a body that was right for one
target is not right for another one that differs from it in a byte or an aligned word
(`bound_to_target`). And a body with the hash of a short target is right for one seed only
(`authorized_seed`).
-/

namespace SampApi
open Lib XXHash Handler

variable {W : Type}

/-- The bytes of a string (source `data`); each character is one of them. -/
def bytesOf (s : Str) : List BYTE := s.map fun c => BitVec.ofNat 8 c.toNat

lemma length_bytesOf (s : Str) : (bytesOf s).length = s.length := List.length_map _

/-- The hash that `Authorize` asks for, with the bytes of the target at an address. -/
def hashAt (m : Machine) (data : Nat) (uri : Str) (seed : UInt32) : Option UInt32 :=
  (XXH32 m (placed data (bytesOf uri)) data uri.length seed.toBitVec).map UInt32.ofBitVec

/-- The surroundings of a plugin that is linked with the hash function, compiled for a machine; `data`
    is where the target is at a time. -/
def Env.linked (env : Env W) (m : Machine) (data : Str → Nat) : Env W :=
  { env with XXH32 := fun uri seed => (hashAt m (data uri) uri seed).getD 0 }

/-- There is always a hash, and it depends on the bytes and the seed only. -/
lemma hashAt_eq (m : Machine) (data : Nat) (uri : Str) (seed : UInt32) :
    hashAt m data uri seed = some (.ofBitVec (hash32 seed.toBitVec (bytesOf uri))) := by
  rw [hashAt, ← length_bytesOf, XXH32_eq m (holds_placed data (bytesOf uri))]
  rfl

lemma linked_hash (env : Env W) (m : Machine) (data : Str → Nat) (uri : Str) (seed : UInt32) :
    (env.linked m data).XXH32 uri seed = .ofBitVec (hash32 seed.toBitVec (bytesOf uri)) := by
  show (hashAt m (data uri) uri seed).getD 0 = _
  rw [hashAt_eq]
  rfl

/-! ## One target -/

/-- A file does not permit two requests with the same body whose targets are one word apart. -/
lemma not_both_permitted (env : Env W) (m : Machine) (data : Str → Nat) {text : Str}
    {req req' : Request} (hbody : req.body = req'.body)
    (hapart : OneWordApart (bytesOf req.target) (bytesOf req'.target)) {remote remote' : Str}
    (h : Permitted (env.linked m data) text req remote) :
    ¬ Permitted (env.linked m data) text req' remote' := by
  intro h'
  obtain ⟨-, password, seed, body, -, hs, hd, -, hhash⟩ := h
  obtain ⟨-, password', seed', body', -, hs', hd', -, hhash'⟩ := h'
  cases hs.symm.trans hs'
  rw [hbody] at hd
  cases hd.symm.trans hd'
  rw [linked_hash] at hhash hhash'
  exact hapart.hash32_ne _ (UInt32.ofBitVec.inj (hhash.symm.trans hhash'))

namespace System

/-- Credentials are bound to their target. When `Load` has succeeded with a configuration file, then in
    every run of the endpoint, of any two answered requests with the same body whose targets have one
    length and differ only in one byte, or only within one aligned word, at least one was answered with
    401: whoever sent them, in whatever order, and whatever else happened. -/
theorem bound_to_target (env : Env W) (m : Machine) (data : Str → Nat) {host : Host} {text : Str}
    {g : Globals} (hc : host.content "server.cfg".toList = some text)
    (hl : load host {} = (.ok true, g)) :
    ∃ e, g.e = some e ∧
      ∀ world es t, run (step (env.linked m data)) (g.system e world) es = some t →
        ∀ (i j : Nat) (c d : Session) req r req' r', t.sessions[i]? = some c →
          t.sessions[j]? = some d → c.written = some (req, r) → d.written = some (req', r') →
          req.method.isHandled = true → req'.method.isHandled = true → req.body = req'.body →
          OneWordApart (bytesOf req.target) (bytesOf req'.target) → r.result = 401 ∨ r'.result = 401 := by
  obtain ⟨port, password, seed, he, hp, hs, hconfig⟩ := load_started hc hl
  refine ⟨_, he, ?_⟩
  intro world es t hr i j c d req r req' r' hi hj hw hw' hm hm' hbody hapart
  obtain ⟨client, -, hiff⟩ := written_permitted (env.linked m data) hp hs hconfig hr hi hw hm
  obtain ⟨client', -, hiff'⟩ := written_permitted (env.linked m data) hp hs hconfig hr hj hw' hm'
  by_cases h : Permitted (env.linked m data) text req client.remote
  · exact .inr (hiff'.2 (not_both_permitted env m data hbody hapart h))
  · exact .inl (hiff.2 h)

/-- A request to kick `bib`, with the body of the one to kick `bob`. -/
def Demo.kickBib : Request := { Demo.kickBob with target := "/player/kick/bib".toList }

/-- Two clients send them. -/
def sameBody : List (Event Demo.Game) := [
  .command .gameModeInit, .accepted (some ⟨Demo.remote, 40⟩), .command .processTick,
  .runAccept (.connects ⟨Demo.remote, 40⟩), .runAccept .waits,
  .readSome 0 40 (.complete Demo.kickBob), .runRead 0,
  .readSome 1 40 (.complete Demo.kickBib), .runRead 1]

/-- The targets differ in one byte. -/
lemma kick_apart : OneWordApart (bytesOf Demo.kickBob.target) (bytesOf Demo.kickBib.target) := by
  have hagree : ∀ i < 16, i ≠ 14 →
      (bytesOf Demo.kickBob.target)[i]? = (bytesOf Demo.kickBib.target)[i]? := by
    decide +kernel
  have hlen : (bytesOf Demo.kickBob.target).length = 16 ∧ (bytesOf Demo.kickBib.target).length = 16 := by
    decide +kernel
  refine ⟨hlen.1.trans hlen.2.symm, by decide +kernel, .inr ⟨14, fun i hi => ?_⟩⟩
  by_cases hlt : i < 16
  · exact hagree i hlt hi
  · rw [List.getElem?_eq_none (by omega), List.getElem?_eq_none (by omega)]

/-- One of the two clients gets a 401. -/
theorem bound_to_target_kick :
    ∃ e t c d r r', Demo.loaded.e = some e ∧
      run (step (Demo.env.linked ⟨.bigEndian, true⟩ fun _ => 1001)) (Demo.loaded.system e {})
        sameBody = some t ∧
      t.sessions[0]? = some c ∧ t.sessions[1]? = some d ∧ c.written = some (Demo.kickBob, r) ∧
      d.written = some (Demo.kickBib, r') ∧ (r.result = 401 ∨ r'.result = 401) := by
  have hload : load (Demo.host true "api_password pw".toList) {} = (.ok true, Demo.loaded) := by
    exact Prod.ext (by rfl) rfl
  have hc : (Demo.host true "api_password pw".toList).content "server.cfg".toList =
      some "api_password pw".toList := rfl
  obtain ⟨e, he, h⟩ := bound_to_target Demo.env ⟨.bigEndian, true⟩ (fun _ => 1001) hc hload
  have hrun : Demo.loaded.e.map (fun e =>
      (run (step (Demo.env.linked ⟨.bigEndian, true⟩ fun _ => 1001)) (Demo.loaded.system e {})
        sameBody).map fun t =>
          ((t.sessions[0]?.bind Session.written).map Prod.fst,
            (t.sessions[1]?.bind Session.written).map Prod.fst)) =
        some (some (some Demo.kickBob, some Demo.kickBib)) := by
    decide +kernel
  rw [he] at hrun
  obtain ⟨t, hr, ht⟩ := Option.map_eq_some_iff.1 (Option.some.inj hrun)
  obtain ⟨hw, hw'⟩ := Prod.mk.inj ht
  obtain ⟨⟨req, r⟩, hw, hreq⟩ := Option.map_eq_some_iff.1 hw
  obtain ⟨⟨req', r'⟩, hw', hreq'⟩ := Option.map_eq_some_iff.1 hw'
  cases hreq
  cases hreq'
  obtain ⟨c, hi, hw⟩ := Option.bind_eq_some_iff.1 hw
  obtain ⟨d, hj, hw'⟩ := Option.bind_eq_some_iff.1 hw'
  exact ⟨e, t, c, d, r, r', he, hr, hi, hj, hw, hw',
    h {} sameBody t hr 0 1 c d _ r _ r' hi hj hw hw' rfl rfl rfl kick_apart⟩

end System

/-! ## One seed -/

/-- A hash is that of a target of less than sixteen bytes with exactly one seed. -/
lemma linked_seed (env : Env W) (m : Machine) (data : Str → Nat) {uri : Str} (hlt : uri.length < 16)
    (hash : UInt32) : ∃! seed, (env.linked m data).XXH32 uri seed = hash := by
  have hlen : (bytesOf uri).length < 16 := by rwa [length_bytesOf]
  obtain ⟨seed, hseed, huniq⟩ := (hash32_bijective hlen).existsUnique hash.toBitVec
  refine ⟨.ofBitVec seed, ?_, fun s hs => ?_⟩
  · show (env.linked m data).XXH32 uri _ = hash
    rw [linked_hash]
    exact congrArg UInt32.ofBitVec hseed
  · have hs : (env.linked m data).XXH32 uri s = hash := hs
    rw [linked_hash] at hs
    exact congrArg UInt32.ofBitVec (huniq s.toBitVec (congrArg UInt32.toBitVec hs))

/-- The client is allowed and has sent the password. -/
def KnowsPassword (env : Env W) (config : Config) (handler : Handler) (req : Request) (remote : Str) :
    Prop :=
  whitelisted config remote = true ∧
    ∃ body, decode env BodyRequest req.body = .ok body ∧ body.password = handler.password.getD []

/-- Whatever the configuration is, and whoever sends a request for a target of less than sixteen bytes:
    if an allowed client has sent the password, then exactly one of the `2 ^ 32` seeds authorises the
    request, and otherwise no seed does. -/
theorem authorized_seed (env : Env W) (m : Machine) (data : Str → Nat) (config : Config)
    (handler : Handler) (req : Request) (remote : Str) (hlt : req.target.length < 16) :
    (KnowsPassword (env.linked m data) config handler req remote ∧
      ∃! seed, authorized (env.linked m data) config (handler.setSeed seed) req remote = true) ∨
    (¬ KnowsPassword (env.linked m data) config handler req remote ∧
      ∀ seed, authorized (env.linked m data) config (handler.setSeed seed) req remote = false) := by
  rcases hd : decode (env.linked m data) BodyRequest req.body with _ | body
  · refine .inr ⟨?_, fun seed => ?_⟩
    · intro h
      obtain ⟨-, body, hd', -⟩ := h
      cases hd.symm.trans hd'
    · rw [authorized, hd]
      exact Bool.and_false _
  · have hknows : KnowsPassword (env.linked m data) config handler req remote ↔
        (whitelisted config remote && decide (body.password = handler.password.getD [])) = true := by
      rw [Bool.and_eq_true, decide_eq_true_iff]
      refine and_congr_right fun _ => ⟨fun h => ?_, fun h => ⟨body, hd, h⟩⟩
      obtain ⟨body', hd', h⟩ := h
      cases hd.symm.trans hd'
      exact h
    have heq : ∀ seed, authorized (env.linked m data) config (handler.setSeed seed) req remote =
        (whitelisted config remote && (decide (body.password = handler.password.getD []) &&
          decide ((env.linked m data).XXH32 req.target seed = body.hash))) := by
      intro seed
      rw [authorized, hd]
      simp only [credible, eq_comm (a := body.hash)]
      rfl
    by_cases hc : (whitelisted config remote && decide (body.password = handler.password.getD [])) = true
    · obtain ⟨seed, hseed, huniq⟩ := linked_seed env m data hlt body.hash
      refine .inl ⟨hknows.2 hc, seed, ?_, fun s hs => huniq s ?_⟩
      · show authorized _ _ _ _ _ = true
        rw [heq, ← Bool.and_assoc, hc, decide_eq_true hseed]
        rfl
      · have hs : authorized _ _ _ _ _ = true := hs
        rw [heq, ← Bool.and_assoc, hc, Bool.true_and] at hs
        exact of_decide_eq_true hs
    · refine .inr ⟨fun h => hc (hknows.1 h), fun seed => ?_⟩
      rw [heq, ← Bool.and_assoc, Bool.eq_false_iff.2 hc, Bool.false_and]

/-- The request to ban an address is authorised with one seed. -/
theorem authorized_seed_ban :
    ∃! seed, authorized (Demo.env.linked ⟨.littleEndian, true⟩ fun _ => 8) {}
      ((({} : Handler).setPassword "pw".toList).setSeed seed) Demo.banAddress Demo.remote = true := by
  rcases authorized_seed Demo.env ⟨.littleEndian, true⟩ (fun _ => 8) {}
      (({} : Handler).setPassword "pw".toList) Demo.banAddress Demo.remote (by decide) with
    ⟨-, h⟩ | ⟨h, -⟩
  · exact h
  · exact absurd ⟨rfl, ⟨"pw".toList, 371789582⟩, by rfl, rfl⟩ h

end SampApi

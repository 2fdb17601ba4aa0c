import SampApi.Lib.Width
import SampApi.Status

/-!
# The duration of a ban

`misc::ipban` multiplies the time of a request by 1000, modulo `2 ^ 32`, and passes the product to an
`int`. `ban_exact_iff` says for which times the native gets the milliseconds that were asked for: up to
2147483 seconds. After that the duration is negative, and from 4294968 seconds on it starts again at a
few milliseconds.
-/

namespace SampApi
open Lib RouteFunction IsMessage DefaultCodec

variable {W : Type}

/-! ## Durations -/

/-- The milliseconds that the native gets for a time. -/
def banDuration (time : UInt32) : Int32 := (time * 1000).toInt32

lemma banDuration_eq_iff (time : UInt32) :
    (banDuration time).toInt = 1000 * time.toNat ↔ time.toNat ≤ 2147483 := by
  have h := toInt_mul_eq_iff time.toBitVec 1000#32
  have hnat : (banDuration time).toInt = time.toNat * 1000 ↔ 2 * (time.toNat * 1000) < 2 ^ 32 := h
  rw [Int.mul_comm, hnat]
  omega

/-- As long as they are exact, durations are not negative, and longer for a longer time. -/
lemma banDuration_lt {time time' : UInt32} (h : time < time') (hle : time'.toNat ≤ 2147483) :
    0 ≤ (banDuration time).toInt ∧ banDuration time < banDuration time' := by
  have hlt : time.toNat < time'.toNat := UInt32.lt_iff_toNat_lt.1 h
  have htime := (banDuration_eq_iff time).2 (hlt.le.trans hle)
  have htime' := (banDuration_eq_iff time').2 hle
  refine ⟨?_, Int32.lt_iff_toInt_lt.2 ?_⟩
  · omega
  · omega

/-! ## Requests -/

/-- A request to ban an address is rejected without a native call, or the native is called for the
    address, with the time of the request in milliseconds. -/
def BansExactly (request : IpRequest) (s q : Plugin W) (result : Nat) : Prop :=
  (result ≠ 200 ∧ q.calls = s.calls) ∨
  ∃ (timems : Int32) (reply : Bool),
    q.calls = s.calls ++ [⟨.BlockIpAddress (cStr request.address) timems, reply⟩] ∧
    timems.toInt = 1000 * request.time.toNat

lemma bansExactly_iff {request : IpRequest} {s q : Plugin W} {reply : Bool} (result : Nat)
    (h : q.calls =
      s.calls ++ [⟨.BlockIpAddress (cStr request.address) (banDuration request.time), reply⟩]) :
    BansExactly request s q result ↔ request.time.toNat ≤ 2147483 := by
  rw [← banDuration_eq_iff]
  constructor
  · intro hb
    rcases hb with ⟨-, hcalls⟩ | ⟨timems, reply', hcalls, htime⟩
    · rw [h] at hcalls
      exact absurd (List.append_right_eq_self.1 hcalls) (List.cons_ne_nil _ _)
    · have hcall := (List.cons.inj (List.append_cancel_left (h.symm.trans hcalls))).1
      have hnative : Native.BlockIpAddress _ _ = Native.BlockIpAddress _ _ :=
        congrArg Call.native hcall
      rw [(Native.BlockIpAddress.inj hnative).2]
      exact htime
  · intro htime
    exact .inr ⟨_, reply, h, htime⟩

/-- What a request to ban an address calls. -/
lemma ipban_calls (env : Env W) {req : Request} (response : Response) {remote : Str} (p : Int)
    {s : Plugin W} (hs : s.handler.Registered)
    (ha : Handler.authorized env s.sampConfig s.handler req remote = true)
    (htarget : req.target = "/misc/ip/ban".toList) {request : IpRequest}
    (hd : decode env IpRequest req.body = .ok request) :
    ∃ (r : Response) (q : Plugin W) (reply : Bool),
      Handler.handleRequest env req response remote p s = (.ok r, q) ∧
      q.calls =
        s.calls ++ [⟨.BlockIpAddress (cStr request.address) (banDuration request.time), reply⟩] := by
  have hchosen : chosen req.target = some (.miscIpban, {}) := by
    rw [htarget]
    rfl
  let native : Native := .BlockIpAddress (cStr request.address) (banDuration request.time)
  let reply : Bool := (env.game native (s.checked env req remote).world).1
  obtain ⟨data, hends⟩ := ipban_ends env req {} (s.checked env req remote) hd
    (setBase new { base (new : Message) with message := "OK".toList })
  have hout : miscIpban.outcome env req {} (s.checked env req remote) =
    (.ok (!reply), (s.checked env req remote).called env native, data) := hends
  refine ⟨_, _, reply, handleRequest_matched env req response remote p hs ha hchosen, ?_⟩
  rw [RouteFunction.ended, hout]
  rfl

/-- A request to ban an address is rejected, or bans it for the time of the request, exactly if it is
    not authorised or its time is not more than 2147483 seconds. Up to there the native never gets a
    negative duration, and a longer one for a longer time. -/
theorem ban_exact_iff (env : Env W) (req : Request) (response : Response) (remote : Str) (p : Int)
    {s : Plugin W} (hs : s.handler.Registered) (htarget : req.target = "/misc/ip/ban".toList)
    {request : IpRequest} (hd : decode env IpRequest req.body = .ok request) :
    ∃ (r : Response) (q : Plugin W),
      Handler.handleRequest env req response remote p s = (.ok r, q) ∧
      (BansExactly request s q r.result ↔
        (Handler.authorize env req remote s).1 = .ok true → request.time.toNat ≤ 2147483) ∧
      (request.time.toNat ≤ 2147483 → ∀ time < request.time,
        0 ≤ (banDuration time).toInt ∧ banDuration time < banDuration request.time) := by
  have hmono : request.time.toNat ≤ 2147483 → ∀ time < request.time,
      0 ≤ (banDuration time).toInt ∧ banDuration time < banDuration request.time :=
    fun hle time hlt => banDuration_lt hlt hle
  rw [Handler.authorize_run]
  cases ha : Handler.authorized env s.sampConfig s.handler req remote with
  | false =>
    refine ⟨_, _, handleRequest_unauthorised env req response remote p ha, ?_, hmono⟩
    refine iff_of_true (.inl ⟨?_, rfl⟩) nofun
    intro h
    cases h
  | true =>
    obtain ⟨r, q, reply, hrun, hcalls⟩ := ipban_calls env response p hs ha htarget hd
    refine ⟨r, q, hrun, ?_, hmono⟩
    rw [bansExactly_iff r.result hcalls]
    exact ⟨fun h _ => h, fun h => h rfl⟩

section Example
open Demo

/-- A ban for a minute is exact. -/
theorem ban_exact_iff_banAddress :
    ∃ r q, Handler.handleRequest env banAddress {} remote 0 (plugin {}) = (.ok r, q) ∧
      BansExactly ⟨"1.2.3.4".toList, 60⟩ (plugin {}) q r.result := by
  have hs : (plugin {}).handler.Registered := ⟨rfl, rfl⟩
  obtain ⟨r, q, hrun, h, -⟩ := ban_exact_iff env banAddress {} remote 0 hs rfl
    (show decode env IpRequest banAddress.body = .ok ⟨"1.2.3.4".toList, 60⟩ from rfl)
  exact ⟨r, q, hrun, h.2 fun _ => by decide⟩

/-- A request to ban an address for almost fifty days. -/
def Demo.longBan : Request where
  method := .post
  target := "/misc/ip/ban".toList
  body := "\x7b\"password\":\"pw\",\"hash\":371789582,\"address\":\"1.2.3.4\",\"time\":4294968\x7d".toList

/-- The small game, with a JSON library that knows the body of that request. -/
def Demo.longBanEnv : Env Game :=
  json longBan.body [
    ("password".toList, .string "pw".toList), ("hash".toList, .number 371789582),
    ("address".toList, .string "1.2.3.4".toList), ("time".toList, .number 4294968)]

/-- The address is banned for 704 milliseconds. -/
theorem longBan_short :
    decode longBanEnv IpRequest longBan.body = .ok ⟨"1.2.3.4".toList, 4294968⟩ ∧
    ∃ (r : Response) (q : Plugin Game) (reply : Bool),
      Handler.handleRequest longBanEnv longBan {} remote 0 (plugin {}) = (.ok r, q) ∧
      q.calls = [⟨.BlockIpAddress "1.2.3.4".toList 704, reply⟩] ∧
      ¬ BansExactly ⟨"1.2.3.4".toList, 4294968⟩ (plugin {}) q r.result := by
  have hs : (plugin {}).handler.Registered := ⟨rfl, rfl⟩
  have ha : Handler.authorized longBanEnv (plugin {}).sampConfig (plugin {}).handler longBan remote =
      true := by decide +kernel
  have hd : decode longBanEnv IpRequest longBan.body = .ok ⟨"1.2.3.4".toList, 4294968⟩ := rfl
  obtain ⟨r, q, reply, hrun, hcalls⟩ := ipban_calls longBanEnv {} 0 hs ha rfl hd
  refine ⟨hd, r, q, reply, hrun, hcalls, fun h => ?_⟩
  exact absurd ((bansExactly_iff r.result hcalls).1 h) (by decide)

end Example

end SampApi

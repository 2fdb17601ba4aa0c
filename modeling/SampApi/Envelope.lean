import SampApi.Status

/-!
# The envelope of an answer

Every answer is a JSON object with a type, a code, a text and a time, which three codecs write: the
one of `Message` and those of the two classes derived from it. `envelope_iff` says when the type and
the code agree with the status of the response, and `reread_iff` when the codec of `Message` reads
back what was written.
-/

namespace SampApi
open Lib DefaultCodec IsMessage

variable {W : Type}

/-! ## Answers -/

/-- The messages that are finalised (source the instances of `RouteHandler`, and
    `RequestInvalidHandler`). -/
inductive Answer where
  | message (v : Message)
  | players (v : PlayerMessage)
  | settings (v : SettingsMessage)

namespace Answer

/-- The part that all answers have. -/
def envelope : Answer → Message
  | message v => v
  | players v => v.toMessage
  | settings v => v.toMessage

/-- The text of the answer. -/
def encode (env : Env W) : Answer → Str
  | message v => env.encode v
  | players v => env.encode v
  | settings v => env.encode v

/-- The members of the answer. -/
def members : Answer → List (Str × Value)
  | message v => emit v
  | players v => emit v
  | settings v => emit v

/-- The answer with the message of a function. -/
def ofData : (f : RouteFunction) → f.Data → Answer
  | .playerList, v => players v
  | .playerKick, v => message v
  | .playerBan, v => message v
  | .miscSay, v => message v
  | .miscEcho, v => message v
  | .miscIpban, v => message v
  | .miscIpunban, v => message v
  | .settingsGamemodetext, v => message v
  | .settingsGravity, v => message v
  | .settingsWeather, v => message v
  | .settingsList, v => settings v

lemma ofData_encode (env : Env W) (f : RouteFunction) (v : f.Data) :
    (ofData f v).encode env = env.encode v := by
  cases f <;> rfl

lemma ofData_envelope (f : RouteFunction) (v : f.Data) : (ofData f v).envelope = base v := by
  cases f <;> rfl

/-- All three codecs write the type and the code. -/
lemma members_code (a : Answer) :
    a.members.lookup "code".toList = some (.number a.envelope.code.toNat) := by
  cases a <;> rfl

lemma members_type (a : Answer) :
    a.members.lookup "type".toList = some (.string a.envelope.type) := by
  cases a <;> rfl

lemma members_message (a : Answer) :
    a.members.lookup "message".toList = some (.string a.envelope.message) := by
  cases a <;> rfl

/-- What the codec of `Message` finds as the time: only that codec writes it under this name. -/
lemma members_time (a : Answer) :
    a.members.lookup "response_time".toList =
      match a with
      | message v => some (.number v.time.toNat)
      | players _ => none
      | settings _ => none := by
  cases a <;> rfl

end Answer

/-- The code in an answer is the status of the response, and the type says whether that is a
    success. -/
structure Consistent (result : Nat) (members : List (Str × Value)) : Prop where
  code : members.lookup "code".toList = some (.number result)
  type : members.lookup "type".toList =
    some (.string (if result = 200 then "response".toList else "error".toList))

lemma consistent_iff {a : Answer} :
    Consistent a.envelope.code.toNat a.members ↔
      a.envelope.type =
        if a.envelope.code.toNat = 200 then "response".toList else "error".toList := by
  constructor
  · intro h
    injection Option.some.inj (a.members_type.symm.trans h.type)
  · intro h
    refine ⟨a.members_code, ?_⟩
    rw [a.members_type, h]

/-! ## How the functions end -/

namespace RouteFunction

lemma built_returns (env : Env W) {α : Type} {c : Act W α} (h : Prog.Built (Basic env) c)
    (s : Plugin W) : ∃ a t, c s = (.ok a, t) := by
  cases hc : c s with
  | mk r t =>
    cases r with
    | ok a => exact ⟨a, t, rfl⟩
    | error e =>
      have hno := h.throws (E := fun _ => False) (fun hb s e he => by
        obtain ⟨a, ha⟩ := hb.returns s
        cases ha.symm.trans he)
      exact (hno s e (congrArg Prod.fst hc)).elim

/-- A function that decodes the body first throws before it does anything else, or not at all. -/
lemma decoding_ends {T R : Type} [DefaultCodec R] (env : Env W) (req : Request)
    {k : R → Prog (Plugin W × T) Exn Bool} (x : Plugin W × T)
    (hk : ∀ request, decode env R req.body = .ok request → ∃ b y, k request x = (.ok b, y)) :
    (∃ b y, (Prog.lift (decode env R req.body) >>= k) x = (.ok b, y) ∧
      ∃ request, decode env R req.body = .ok request) ∨
    (∃ what, (Prog.lift (decode env R req.body) >>= k) x = (.error (.decode_exception what), x) ∧
      ¬ ∃ request, decode env R req.body = .ok request) := by
  cases hd : decode env R req.body with
  | ok request =>
    obtain ⟨b, y, hby⟩ := hk request hd
    exact .inl ⟨b, y, hby, request, rfl⟩
  | error e =>
    obtain ⟨what, rfl⟩ := decode_throws hd
    exact .inr ⟨what, rfl, nofun⟩

lemma change_decoding {R : Type} [DefaultCodec R] (env : Env W) (req : Request) (s : Plugin W)
    {set : R → Act W Bool} {result : R → Bool} {t : R → Plugin W}
    (hset : ∀ request, set request s = (.ok (result request), t request)) (failure success : String)
    (data : Message) :
    (∃ b y, settings.change env R set failure success req (s, data) = (.ok b, y) ∧
      ∃ request, decode env R req.body = .ok request) ∨
    (∃ what, settings.change env R set failure success req (s, data) =
        (.error (.decode_exception what), s, data) ∧
      ¬ ∃ request, decode env R req.body = .ok request) := by
  refine decoding_ends env req _ fun request hd => ?_
  obtain ⟨data', h⟩ := change_ends env req failure success hd (hset request) data
  rw [settings.change, decode_bind_ok env req hd] at h
  exact ⟨_, _, h⟩

/-- A function returns if it can decode the body, and otherwise throws, with the message as it was. -/
theorem outcome_ends (env : Env W) (f : RouteFunction) (req : Request) (m : Match) (s : Plugin W) :
    (∃ b y, f.outcome env req m s = (.ok b, y) ∧ Decodes env req.body f) ∨
    (∃ what, f.outcome env req m s = (.error (.decode_exception what), s,
      setBase new { base (new : f.Data) with message := "OK".toList }) ∧
      ¬ Decodes env req.body f) := by
  cases f with
  | playerList =>
    obtain ⟨rows, t, h⟩ := built_returns env (PlayerManager.getPlayerData_built []) s
    have hmsg : ({ message := "OK".toList } : PlayerMessage).players = [] := rfl
    rw [← hmsg] at h
    exact .inl ⟨true, _, list_run req m h, trivial⟩
  | playerKick =>
    obtain ⟨b, t, h⟩ := built_returns env (PlayerManager.kick_built (m.get "name".toList)) s
    obtain ⟨data, hdata⟩ := onName_ends m " got kicked" h _
    exact .inl ⟨b, _, hdata, trivial⟩
  | playerBan =>
    obtain ⟨b, t, h⟩ := built_returns env (PlayerManager.ban_built (m.get "name".toList)) s
    obtain ⟨data, hdata⟩ := onName_ends m " got banned" h _
    exact .inl ⟨b, _, hdata, trivial⟩
  | miscSay => exact decoding_ends env req _ fun request _ => ⟨true, _, rfl⟩
  | miscEcho => exact decoding_ends env req _ fun request _ => ⟨true, _, rfl⟩
  | miscIpban =>
    refine decoding_ends env req _ fun request hd => ?_
    obtain ⟨data, h⟩ := ipban_ends env req m s hd _
    rw [misc.ipban, decode_bind_ok env req hd] at h
    exact ⟨_, _, h⟩
  | miscIpunban =>
    refine decoding_ends env req _ fun request hd => ?_
    obtain ⟨data, h⟩ := ipunban_ends env req m s hd _
    rw [misc.ipunban, decode_bind_ok env req hd] at h
    exact ⟨_, _, h⟩
  | settingsGamemodetext =>
    exact change_decoding env req s (fun request => native_run env (.SetGameModeText _) s) _ _ _
  | settingsGravity =>
    exact change_decoding env req s (fun request => native_run env (.SetGravity _) s) _ _ _
  | settingsWeather =>
    exact change_decoding env req s (fun request => native_run env (.SetWeather _) s) _ _ _
  | settingsList => exact .inl ⟨true, _, rfl, trivial⟩

lemma new_type (f : RouteFunction) : (base (new : f.Data)).type = [] := by
  cases f <;> rfl

/-- The answer that a function is finished with. -/
def finished (env : Env W) (f : RouteFunction) (req : Request) (m : Match) (s : Plugin W)
    (time : UInt32) : Answer :=
  let data := message (f.outcome env req m s).2.2 (f.outcome env req m s).1
  .ofData f (setBase data { base data with time })

/-- The answer is consistent exactly if the function could decode the body. -/
lemma finished_consistent (env : Env W) (f : RouteFunction) (req : Request) (m : Match) (s : Plugin W)
    (time : UInt32) :
    Consistent (f.finished env req m s time).envelope.code.toNat (f.finished env req m s time).members ↔
      Decodes env req.body f := by
  rw [consistent_iff, finished, Answer.ofData_envelope, base_setBase]
  rcases outcome_ends env f req m s with ⟨b, y, h, hd⟩ | ⟨what, h, hd⟩
  · refine iff_of_true ?_ hd
    rw [h]
    cases b with
    | true => rw [message, base_setBase]; rfl
    | false => rw [message, base_setBase]; rfl
  · refine iff_of_false ?_ hd
    -- the type is still the empty text of a new message
    rw [h, message, base_setBase, base_setBase]
    show ¬ (base (new : f.Data)).type =
      if (500 : UInt32).toNat = 200 then "response".toList else "error".toList
    rw [new_type]
    decide

end RouteFunction

open RouteFunction

/-! ## Envelopes -/

/-- An answer with an error is consistent. -/
lemma error_consistent {code : UInt32} (h : code.toNat ≠ 200) (message : Str) (time : UInt32) :
    Consistent code.toNat (emit (⟨"error".toList, code, message, time⟩ : Message)) := by
  refine (consistent_iff (a := .message ⟨"error".toList, code, message, time⟩)).2 ?_
  rw [Answer.envelope, if_neg h]

/-- The answer that the handler writes. -/
def Handler.answered (env : Env W) (req : Request) (remote : Str) (p : Int) (s : Plugin W) : Answer :=
  let t := s.checked env req remote
  if authorized env s.sampConfig s.handler req remote then
    match chosen req.target with
    | some (f, m) => f.finished env req m t ((f.ended env req m t).elapsed env p)
    | none =>
      .message ⟨"error".toList, 404, "Invalid route".toList, t.elapsed env p⟩
  else .message ⟨"error".toList, 401, "Unauthorized".toList, t.elapsed env p⟩

/-- The status of the response is the code of the answer, and the body gets its text. -/
lemma handleRequest_answered (env : Env W) (req : Request) (response : Response) (remote : Str)
    (p : Int) {s : Plugin W} (hs : s.handler.Registered) :
    ∃ r q, Handler.handleRequest env req response remote p s = (.ok r, q) ∧
      r.result = (Handler.answered env req remote p s).envelope.code.toNat ∧
      r.body = response.body ++ (Handler.answered env req remote p s).encode env := by
  rw [Handler.answered]
  cases ha : Handler.authorized env s.sampConfig s.handler req remote with
  | false =>
    exact ⟨_, _, handleRequest_unauthorised env req response remote p ha, rfl, rfl⟩
  | true =>
    cases hc : chosen req.target with
    | none =>
      exact ⟨_, _, handleRequest_unmatched env req response remote p hs ha hc, rfl, rfl⟩
    | some fm =>
      refine ⟨_, _, handleRequest_matched env req response remote p hs ha hc, ?_, ?_⟩
      · show _ = (fm.1.finished ..).envelope.code.toNat
        rw [finished, Answer.ofData_envelope, base_setBase]
        rfl
      · show _ = _ ++ (fm.1.finished ..).encode env
        rw [finished, Answer.ofData_encode]
        rfl

/-- The answer is consistent, unless the function of the route was run and could not decode the
    body. -/
lemma answered_consistent (env : Env W) (req : Request) (remote : Str) (p : Int) (s : Plugin W) :
    Consistent (Handler.answered env req remote p s).envelope.code.toNat
        (Handler.answered env req remote p s).members ↔
      (Handler.authorized env s.sampConfig s.handler req remote = true →
        ∀ f m, chosen req.target = some (f, m) → Decodes env req.body f) := by
  rw [Handler.answered]
  cases Handler.authorized env s.sampConfig s.handler req remote with
  | false =>
    refine iff_of_true ?_ nofun
    exact error_consistent (show (401 : UInt32).toNat ≠ 200 by decide) _ _
  | true =>
    cases chosen req.target with
    | none =>
      refine iff_of_true ?_ nofun
      exact error_consistent (show (404 : UInt32).toNat ≠ 200 by decide) _ _
    | some fm =>
      apply (fm.1.finished_consistent env req fm.2 (s.checked env req remote) _).trans
      constructor
      · intro h _ f m hf
        cases hf
        exact h
      · intro h
        exact h rfl fm.1 fm.2 rfl

/-- The envelope of an answer agrees with the status of the response exactly if the request is not
    authorised, fits no route, or has a body that the function of its route can decode. -/
theorem envelope_iff (env : Env W) (req : Request) (response : Response) (remote : Str) (p : Int)
    {s : Plugin W} (hs : s.handler.Registered) :
    ∃ r q, Handler.handleRequest env req response remote p s = (.ok r, q) ∧
      r.body = response.body ++ (Handler.answered env req remote p s).encode env ∧
      (Consistent r.result (Handler.answered env req remote p s).members ↔
        ((Handler.authorize env req remote s).1 = .ok true → ∀ tmpl f found,
          (tmpl, f) ∈ s.handler.routes.entries → Handler.Matches s.handler req.target tmpl found →
            Decodes env req.body f)) := by
  obtain ⟨r, q, hrun, hresult, hbody⟩ := handleRequest_answered env req response remote p hs
  refine ⟨r, q, hrun, hbody, ?_⟩
  rw [hresult, answered_consistent, Handler.authorize_run]
  constructor
  · intro h ha tmpl f found hf hm
    obtain rfl := hs.eq_entry hf
    exact h (Except.ok.inj ha) f found (chosen_eq_some.2 ((Handler.matches_iff hs).1 hm))
  · intro h ha f m hf
    have hm := (Handler.matches_iff hs).2 (chosen_eq_some.1 hf)
    exact h (congrArg Except.ok ha) f.entry.1 f m (hs.entry_mem f) hm

section Example
open Demo

/-- A request to send a message that has none. -/
def Demo.sayNothing : Request where
  method := .post
  target := "/misc/say".toList
  body := "\x7b\"password\":\"pw\",\"hash\":2296495698\x7d".toList

/-- The small game, with a JSON library that knows the body of that request. -/
def Demo.sayEnv : Env Game :=
  json sayNothing.body [
    ("password".toList, .string "pw".toList), ("hash".toList, .number 2296495698)]

/-- The answer to a request without a message has the code 500, and no type. -/
theorem sayNothing_untyped :
    ∃ r q, Handler.handleRequest sayEnv sayNothing {} remote 0 (plugin {}) = (.ok r, q) ∧
      r.result = 500 ∧
      (Handler.answered sayEnv sayNothing remote 0 (plugin {})).envelope.type = [] ∧
      ¬ Consistent r.result (Handler.answered sayEnv sayNothing remote 0 (plugin {})).members := by
  have hs : (plugin {}).handler.Registered := ⟨rfl, rfl⟩
  obtain ⟨r, q, hrun, hresult, -⟩ := handleRequest_answered sayEnv sayNothing {} remote 0 hs
  have ha : Handler.authorized sayEnv (plugin {}).sampConfig (plugin {}).handler sayNothing remote =
      true := by decide +kernel
  have hchosen : chosen sayNothing.target = some (.miscSay, {}) := by rfl
  obtain ⟨t, time, hanswered⟩ : ∃ t time, Handler.answered sayEnv sayNothing remote 0 (plugin {}) =
      miscSay.finished sayEnv sayNothing {} t time := by
    rw [Handler.answered, if_pos ha, hchosen]
    exact ⟨_, _, rfl⟩
  rw [hanswered] at hresult ⊢
  refine ⟨r, q, hrun, hresult, rfl, fun h => ?_⟩
  rw [hresult] at h
  cases consistent_iff.1 h

/-- A request to kick the player `bob` is answered with a consistent envelope. -/
theorem envelope_iff_kickBob :
    ∃ r q, Handler.handleRequest Demo.env kickBob {} remote 0 (plugin {}) = (.ok r, q) ∧
      Consistent r.result (Handler.answered Demo.env kickBob remote 0 (plugin {})).members := by
  have hs : (plugin {}).handler.Registered := ⟨rfl, rfl⟩
  obtain ⟨r, q, hrun, -, h⟩ := envelope_iff Demo.env kickBob {} remote 0 hs
  refine ⟨r, q, hrun, h.2 fun _ tmpl f found hf hm => ?_⟩
  obtain rfl := hs.eq_entry hf
  -- kicking decodes nothing
  have hkick : captures .playerKick kickBob.target = some _ := rfl
  rw [captures_unique ((Handler.matches_iff hs).1 hm) hkick]
  trivial

end Example

/-! ## Reading answers -/

/-- The JSON library reads a text as the object with some members. -/
def Env.Reads (env : Env W) (T : Type) [DefaultCodec T] (text : Str)
    (members : List (Str × Value)) : Prop :=
  (env.decode text : Except Str T).toOption = ((codec : Codec T).fill members new).toOption

lemma decode_eq_ok {env : Env W} {T : Type} [DefaultCodec T] {text : Str} {t : T} :
    decode env T text = .ok t ↔ (env.decode text : Except Str T).toOption = some t := by
  rw [decode]
  cases (env.decode text : Except Str T) with
  | ok t' => exact ⟨fun h => by cases h; rfl, fun h => by cases h; rfl⟩
  | error e => exact ⟨nofun, nofun⟩

/-- Read with the codec of `Message`, an answer of another class has no time. -/
lemma fill_members (a : Answer) :
    (codec : Codec Message).fill a.members new =
      .ok (match a with
        | .message v => v
        | .players v => { v.toMessage with time := 0 }
        | .settings v => { v.toMessage with time := 0 }) := by
  apply (Codec.fill_string a.members_type).trans
  apply (Codec.fill_uint32 a.members_code).trans
  apply (Codec.fill_string a.members_message).trans
  have htime := a.members_time
  cases a with
  | message v => exact (Codec.fill_uint32 htime).trans rfl
  | players v => exact (Codec.fill_absent htime).trans rfl
  | settings v => exact (Codec.fill_absent htime).trans rfl

lemma timeless (v : Message) :
    (Except.ok { v with time := 0 } : Except Str Message).toOption = some v ↔ v.time = 0 := by
  constructor
  · intro h
    exact congrArg Message.time (Option.some.inj h).symm
  · intro h
    rw [← h]
    rfl

/-- The codec of `Message` reads back the envelope that was written exactly if the answer is a
    `Message`, or was made in no time. -/
theorem reread_iff (env : Env W) (a : Answer) (h : env.Reads Message (a.encode env) a.members) :
    decode env Message (a.encode env) = .ok a.envelope ↔
      (∃ v, a = .message v) ∨ a.envelope.time = 0 := by
  rw [decode_eq_ok, h, fill_members]
  cases a with
  | message v => exact iff_of_true rfl (.inl ⟨v, rfl⟩)
  | players v => exact (timeless v.toMessage).trans (or_iff_right nofun).symm
  | settings v => exact (timeless v.toMessage).trans (or_iff_right nofun).symm

section Example
open Demo

lemma Demo.json_reads (text : Str) (members : List (Str × Value)) (T : Type) [DefaultCodec T] :
    (json text members).Reads T text members := by
  show (if text = text then codec.fill members new else .error _ : Except Str T).toOption = _
  rw [if_pos rfl]

/-- A list of nobody, made in three milliseconds. -/
def Demo.nobody : Answer := .players {
  type := "response".toList
  message := "OK".toList
  time := 3 }

/-- The small game, with a JSON library that knows the text of that list. -/
def Demo.nobodyEnv : Env Game :=
  json ("\x7b\"type\":\"response\",\"code\":200,\"count\":0,\"message\":\"OK\",".toList
    ++ "\"time\":3,\"players\":[]\x7d".toList) nobody.members

/-- Read with the codec of `Message`, the list was made in no time. -/
theorem nobody_timeless :
    nobodyEnv.Reads Message (nobody.encode nobodyEnv) nobody.members ∧
      decode nobodyEnv Message (nobody.encode nobodyEnv) = .ok { nobody.envelope with time := 0 } ∧
      decode nobodyEnv Message (nobody.encode nobodyEnv) ≠ .ok nobody.envelope := by
  have hreads : nobodyEnv.Reads Message (nobody.encode nobodyEnv) nobody.members :=
    json_reads ..
  have hdecode : decode nobodyEnv Message (nobody.encode nobodyEnv) =
      .ok { nobody.envelope with time := 0 } := by
    rw [decode_eq_ok, hreads, fill_members]
    rfl
  refine ⟨hreads, hdecode, fun h => ?_⟩
  cases hdecode.symm.trans h

/-- An answer that a request is not authorised. -/
def Demo.unauthorized : Answer := .message ⟨"error".toList, 401, "Unauthorized".toList, 3⟩

/-- The small game, with a JSON library that knows the text of that answer. -/
def Demo.unauthorizedEnv : Env Game :=
  json ("\x7b\"type\":\"error\",\"code\":401,\"message\":\"Unauthorized\",".toList
    ++ "\"response_time\":3\x7d".toList) unauthorized.members

/-- The answer is read back. -/
theorem reread_iff_unauthorized :
    decode unauthorizedEnv Message (unauthorized.encode unauthorizedEnv) =
      .ok unauthorized.envelope :=
  (reread_iff unauthorizedEnv unauthorized (json_reads ..)).2 (.inl ⟨_, rfl⟩)

end Example

end SampApi

import SampApi.Functions
import SampApi.Template

/-!
# Runs of the request handler

One equation for each function between a session and the functions behind the routes: what it returns
and in which state it leaves the plugin. None of them throws. The decision of `authorize` is
`Handler.authorized`, and what `RouteHandler::HandleRequest` makes of the end of a function is
`RouteFunction.message`.
-/

namespace SampApi
open Lib IsMessage DefaultCodec

variable {W T : Type}

/-! ## Messages -/

/-- A response that carries a message, with its time. -/
def Response.carrying [IsMessage T] (env : Env W) (response : Response) (data : T) (time : UInt32) :
    Response :=
  { response with
    content_type := some "application/json".toList
    result := (base data).code.toNat
    body := response.body ++ env.encode (setBase data { base data with time }) }

/-- The plugin after the clock was read. -/
def Plugin.tick (p : Plugin W) : Plugin W := { p with readings := p.readings + 1 }

/-- The milliseconds since `p`, by the next reading of the clock. -/
def Plugin.elapsed (env : Env W) (s : Plugin W) (p : Int) : UInt32 :=
  SampApi.elapsed p (env.now s.readings)

/-- Messages with a code of up to three digits are answered. -/
lemma answer_run [IsMessage T] (env : Env W) (response : Response) (data : T) (p : Int)
    (s : Plugin W) (h : (base data).code.toNat ≤ 999) :
    answer env response data p s =
      (.ok (response.carrying env data (s.elapsed env p)), s.tick) := by
  have hset : Response.setResult { response with content_type := some "application/json".toList }
      (base data).code.toNat = .ok { response with
        content_type := some "application/json".toList, result := (base data).code.toNat } := by
    rw [Response.setResult, if_neg (Nat.not_lt.2 h)]
  rw [answer, finalize]
  simp only [hset, Prog.bind_run, Prog.lift_run, now_run, Prog.pure_run]
  rfl

/-! ## Functions behind routes -/

/-- Listing the players puts their rows into the message. -/
lemma list_run {env : Env W} {s t : Plugin W} {msg : PlayerMessage} {rows : List PlayerData}
    (req : Request) (found : Match)
    (h : PlayerManager.getPlayerData env msg.players s = (.ok rows, t)) :
    player.list env req found (s, msg) =
      (.ok true, t, { msg with players := rows, count := UInt32.ofNat rows.length }) := by
  have hfst : (Prog.onFst (PlayerManager.getPlayerData env msg.players) :
      Prog (Plugin W × PlayerMessage) Exn _) (s, msg) = (.ok rows, t, msg) := by
    rw [Prog.onFst_run, h]
  rw [player.list, Prog.gets_bind_run, Prog.bind_ok hfst]
  rfl

namespace RouteFunction

/-- How the function ends on a new message, with the state and the message it leaves. -/
def outcome (env : Env W) (f : RouteFunction) (req : Request) (m : Match) (s : Plugin W) :
    Except Exn Bool × Plugin W × f.Data :=
  f.handler env req m (s, setBase new { base (new : f.Data) with message := "OK".toList })

/-- The message that is made of the end of a function. -/
def message [IsMessage T] (data : T) : Except Exn Bool → T
  | .ok true => setBase data { base data with type := "response".toList, code := 200 }
  | .ok false => setBase data { base data with code := 417, type := "error".toList }
  | .error (.decode_exception what) =>
    setBase data { base data with code := 500, message := "Invalid request error: ".toList ++ what }
  | .error _ => data

/-- The code for the end of a function. -/
def code : Except Exn Bool → Nat
  | .ok true => 200
  | .ok false => 417
  | .error _ => 500

/-- The plugin after the function has ended and was recorded. -/
def ended (env : Env W) (f : RouteFunction) (req : Request) (m : Match) (s : Plugin W) : Plugin W :=
  let r := f.outcome env req m s
  { r.2.1 with handled := r.2.1.handled ++ [⟨f, m, r.1⟩] }

lemma outcome_error {env : Env W} {f : RouteFunction} {req : Request} {m : Match} {s : Plugin W}
    {e : Exn} (h : (f.outcome env req m s).1 = .error e) : ∃ what, e = .decode_exception what :=
  handler_throws h

lemma message_code (env : Env W) (f : RouteFunction) (req : Request) (m : Match) (s : Plugin W)
    (data : f.Data) :
    (base (message data (f.outcome env req m s).1)).code.toNat = code (f.outcome env req m s).1 := by
  cases h : (f.outcome env req m s).1 with
  | ok b =>
    cases b with
    | true => rw [message, base_setBase]; rfl
    | false => rw [message, base_setBase]; rfl
  | error e =>
    obtain ⟨what, rfl⟩ := outcome_error h
    rw [message, base_setBase]
    rfl

lemma code_le (o : Except Exn Bool) : code o ≤ 999 := by
  cases o with
  | ok b => cases b <;> decide
  | error e => exact (by decide : 500 ≤ 999)

/-- A route handler answers with the message made of the end of its function. -/
theorem handleRequest_run (env : Env W) (f : RouteFunction) (req : Request) (response : Response)
    (m : Match) (p : Int) (s : Plugin W) :
    f.handleRequest env req response m p s =
      (.ok (response.carrying env (message (f.outcome env req m s).2.2 (f.outcome env req m s).1)
        ((f.ended env req m s).elapsed env p)), (f.ended env req m s).tick) := by
  have hcode := message_code env f req m s (f.outcome env req m s).2.2
  have hans := answer_run env response
    (message (f.outcome env req m s).2.2 (f.outcome env req m s).1) p (f.ended env req m s)
    (hcode ▸ code_le _)
  rw [← hans, handleRequest, RouteHandler.handleRequest, RouteHandler.call]
  simp only [Prog.bind_assoc_run, Prog.withLocal_bind_run, Prog.update_bind_run, Prog.pure_bind_run]
  show (match (f.outcome env req m s).1 with
    | .ok true => _
    | .ok false => _
    | .error (.decode_exception what) => _
    | .error e => _ : Act W Response) (f.ended env req m s) = _
  cases h : (f.outcome env req m s).1 with
  | ok b => cases b <;> rfl
  | error e =>
    obtain ⟨what, rfl⟩ := outcome_error h
    rfl

lemma ended_keeps (env : Env W) (f : RouteFunction) (req : Request) (m : Match) (s : Plugin W) :
    s.Keeps { f.ended env req m s with handled := s.handled } := by
  have h := handler_keeps env f req m
    (s, setBase new { base (new : f.Data) with message := "OK".toList })
  exact ⟨h.sampConfig, h.handler, rfl, h.readings⟩

/-- The end of a function is recorded, once. -/
lemma ended_handled (env : Env W) (f : RouteFunction) (req : Request) (m : Match) (s : Plugin W) :
    (f.ended env req m s).handled = s.handled ++ [⟨f, m, (f.outcome env req m s).1⟩] := by
  have h := handler_keeps env f req m
    (s, setBase new { base (new : f.Data) with message := "OK".toList })
  exact congrArg (· ++ _) h.handled

end RouteFunction

/-! ## The handler -/

/-- The plugin after the url of the route was set. -/
def Plugin.withUrl (s : Plugin W) (u : Str) : Plugin W :=
  { s with handler := { s.handler with
      route := { s.handler.route with url := u, path_to_regex := keyRegex } } }

namespace Handler

lemma setRoute_run (u : Str) (s : Plugin W) : setRoute u s = (.ok {}, s.withUrl u) := by
  rw [setRoute, Prog.gets_bind_run, Route.set_eq]
  rfl

/-- The response that `showError` makes. -/
def errorResponse (env : Env W) (response : Response) (code : UInt32) (message : String)
    (time : UInt32) : Response :=
  response.carrying env ({ type := "error".toList, code, message := message.toList } : Message) time

lemma showError_run (env : Env W) (req : Request) (response : Response) {code : UInt32}
    (message : String) (p : Int) (s : Plugin W) (h : code.toNat ≤ 999) :
    showError env req response code message p s =
      (.ok (errorResponse env response code message (s.elapsed env p)),
        (s.withUrl req.target).tick) := by
  rw [showError, Prog.bind_ok (setRoute_run _ s)]
  exact answer_run env response
    ({ type := "error".toList, code, message := message.toList } : Message) p _ h

/-! ## Authorisation -/

/-- The address is allowed: there is no whitelist, or the address is in it. -/
def whitelisted (config : Config) (remote : Str) : Bool :=
  let ips := (config.getAll "api_ip_whitelist".toList []).2
  ips.isEmpty || ips.contains remote

/-- The password and the hash in a body are right. -/
def credible (env : Env W) (handler : Handler) (uri : Str) (body : BodyRequest) : Bool :=
  body.password = handler.password.getD [] && body.hash = env.XXH32 uri (handler.seed.getD 0)

/-- The check that `Authorize` makes of a body. -/
lemma not_credible {env : Env W} {handler : Handler} {uri : Str} {body : BodyRequest} :
    (handler.password.getD [] ≠ body.password ∨ env.XXH32 uri (handler.seed.getD 0) ≠ body.hash) ↔
      credible env handler uri body = false := by
  rw [credible, Bool.and_eq_false_iff, decide_eq_false_iff_not, decide_eq_false_iff_not]
  exact or_congr ne_comm ne_comm

/-- Whether a request is authorised. -/
def authorized (env : Env W) (config : Config) (handler : Handler) (req : Request) (remote : Str) :
    Bool :=
  whitelisted config remote &&
    match decode env BodyRequest req.body with
    | .ok body => credible env handler req.target body
    | .error _ => false

/-- The lines that the authorisation of a request writes to the log. -/
def warnings (env : Env W) (config : Config) (handler : Handler) (req : Request) (remote : Str) :
    List Str :=
  if whitelisted config remote then
    match decode env BodyRequest req.body with
    | .ok body =>
      if credible env handler req.target body then []
      else [invalidPassword remote req.target body (env.XXH32 req.target (handler.seed.getD 0))]
    | .error _ => []
  else []

lemma foldl_ready (ips : List Str) (remote : Str) (b : Bool) :
    ips.foldl (fun ready ip => if ip = remote then true else ready) b = (b || ips.contains remote) := by
  induction ips generalizing b with
  | nil => simp
  | cons ip ips ih =>
    rw [List.foldl_cons, ih, List.contains_cons]
    by_cases h : ip = remote
    · simp [h]
    · have h' : (remote == ip) = false := beq_false_of_ne fun e => h e.symm
      rw [if_neg h, h', Bool.false_or]

/-- The loop over the whitelist in `Authorize`. -/
lemma ready_eq (config : Config) (remote : Str) :
    (config.getAll "api_ip_whitelist".toList []).2.foldl
        (fun ready ip => if ip = remote then true else ready)
        (if (config.getAll "api_ip_whitelist".toList []).2.length > 0 then false else true) =
      whitelisted config remote := by
  rw [foldl_ready, whitelisted]
  cases (config.getAll "api_ip_whitelist".toList []).2 with
  | nil => rfl
  | cons ip ips => rfl

/-- `authorize` decides by `authorized`, and changes nothing but the log. -/
theorem authorize_run (env : Env W) (req : Request) (remote : Str) (s : Plugin W) :
    authorize env req remote s =
      (.ok (authorized env s.sampConfig s.handler req remote),
        { s with log := s.log ++ warnings env s.sampConfig s.handler req remote }) := by
  rw [authorize, Prog.gets_bind_run]
  simp only [ready_eq, authorized, warnings]
  cases whitelisted s.sampConfig remote with
  | false => simp
  | true =>
    simp only [Bool.not_true, Bool.false_eq_true, if_false, Bool.true_and, if_true,
      Prog.gets_bind_run]
    cases hd : decode env BodyRequest req.body with
    | error e =>
      obtain ⟨what, rfl⟩ := decode_throws hd
      simp
    | ok body =>
      simp only [not_credible]
      cases credible env s.handler req.target body with
      | true => simp
      | false =>
        simp only [if_true, Bool.false_eq_true, if_false]
        rfl

end Handler
end SampApi

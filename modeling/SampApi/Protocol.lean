import SampApi.Lifetime

/-!
# The protocol of a session

The completion handlers of a session may be run in any order in which its operations complete. To see
what a session calls, the functions between the handler of its read and the library are read once more
with a note of each call (`onReadNoted`); without the notes they are the same functions
(`onReadNoted_erase`). Along every run a session calls the request handler and starts to write at most
once, in the handler of a read that succeeded, and while it reads or writes its deadline is
outstanding, or has closed the socket (`session_protocol`).
-/

namespace SampApi
open Lib

variable {W : Type}

namespace Session

/-! ## Notes of calls -/

/-- The calls that a session makes to answer a request. -/
inductive Call where
  | handleRequest (req : Request) (response : Response) (remote : Str)
  | asyncWrite (response : Response)
  deriving DecidableEq, Repr

namespace Call

/-- The call of the request handler. -/
def isRequest : Call → Bool
  | handleRequest _ _ _ => true
  | asyncWrite _ => false

/-- The start of a write. -/
def isWrite : Call → Bool
  | handleRequest _ _ _ => false
  | asyncWrite _ => true

end Call

/-- Notes a call. -/
def note (call : Call) : Prog (Plugin W × List Call) Exn Unit :=
  Prog.update fun s => (s.1, s.2 ++ [call])

/-- `createResponse`, with a note of the call of the handler. -/
def createResponseNoted (env : Env W) (s : Session) : Prog (Plugin W × List Call) Exn Session := do
  let ip ← Prog.lift s.socket.remote_endpoint
  note (.handleRequest s.request s.response ip)
  let response ← Prog.onFst (Handler.handleRequest env s.request s.response ip s.init_time)
  return { s with response }

/-- `startWrite`, with a note of the write that it starts. -/
def startWriteNoted (s : Session) : Prog (Plugin W × List Call) Exn Session := do
  note (.asyncWrite s.startWrite.response)
  return s.startWrite

/-- `processRequest`, with notes. -/
def processRequestNoted (env : Env W) (s : Session) : Prog (Plugin W × List Call) Exn Session := do
  let s := { s with
    response := { s.response with version := s.request.version, keep_alive := false } }
  let s ←
    match s.request.method with
    | .post => createResponseNoted env s
    | .get => createResponseNoted env s
    | .other _ => pure s
  startWriteNoted s

/-- `onRead`, with notes. -/
def onReadNoted (env : Env W) (s : Session) (result : Option Unit) :
    Prog (Plugin W × List Call) Exn Session :=
  match result with
  | some () => processRequestNoted env s
  | none => pure s

/-- The calls that the handler of a read makes. -/
def calls (env : Env W) (s : Session) (result : Option Unit) (p : Plugin W) : List Call :=
  (onReadNoted env s result (p, [])).2.2

/-- The plugin does not see the notes. -/
def Erases (s : Plugin W × List Call) (p : Plugin W) : Prop := s.1 = p

lemma note_erase {α : Type} (call : Call) {k : Unit → Prog (Plugin W × List Call) Exn α}
    {d : Act W α} (h : Prog.Rel Erases Eq (k ()) d) : Prog.Rel Erases Eq (note call >>= k) d :=
  fun s p r => h (s.1, s.2 ++ [call]) p r

lemma createResponseNoted_erase (env : Env W) (s : Session) :
    Prog.Rel Erases Eq (createResponseNoted env s) (createResponse env s) := by
  refine .bind (.lift (Prog.agree_refl (fun _ => rfl) _)) fun ip ip' h => ?_
  subst h
  apply note_erase
  refine .bind (.onFst _) fun response response' h => ?_
  subst h
  exact .pure rfl

lemma startWriteNoted_erase {c : Prog (Plugin W × List Call) Exn Session} {d : Act W Session}
    (h : Prog.Rel Erases Eq c d) :
    Prog.Rel Erases Eq (c >>= fun s => startWriteNoted s) (d >>= fun s => pure s.startWrite) := by
  refine .bind h fun s s' e => ?_
  subst e
  exact note_erase _ (.pure rfl)

lemma processRequestNoted_erase (env : Env W) (s : Session) :
    Prog.Rel Erases Eq (processRequestNoted env s) (processRequest env s) := by
  rw [processRequestNoted, processRequest]
  cases s.request.method with
  | get => exact startWriteNoted_erase (createResponseNoted_erase env _)
  | post => exact startWriteNoted_erase (createResponseNoted_erase env _)
  | other name => exact startWriteNoted_erase (.pure rfl)

/-- Without the notes, the handler of a read is the one of the source. -/
theorem onReadNoted_erase (env : Env W) (s : Session) (result : Option Unit) :
    Prog.Rel Erases Eq (onReadNoted env s result) (onRead env s result) := by
  cases result with
  | none => exact .pure rfl
  | some _ => exact processRequestNoted_erase env s

lemma onReadNoted_run (env : Env W) (s : Session) (result : Option Unit) (p : Plugin W) :
    onRead env s result p =
      ((onReadNoted env s result (p, [])).1, (onReadNoted env s result (p, [])).2.1) := by
  obtain ⟨hresult, hstate⟩ := onReadNoted_erase env s result (p, []) p rfl
  exact Prod.ext (Prog.agree_eq hresult).symm hstate.symm

/-! ## What a session calls -/

/-- The response with its head filled in. -/
def filled (req : Request) (response : Response) : Response :=
  { response with version := req.version, keep_alive := false }

/-- What a session may call: nothing, or the write of an empty response, or the request handler and the
    write of the response that it returned. -/
inductive Exchange (env : Env W) : List Call → Prop where
  | nothing : Exchange env []
  | empty {req response} :
    req.method.isHandled = false →
    Exchange env [.asyncWrite (filled req response).sized]
  | answered {req response remote init_time p r q} :
    req.method.isHandled = true →
    Handler.handleRequest env req (filled req response) remote init_time p = (.ok r, q) →
    Exchange env [.handleRequest req (filled req response) remote, .asyncWrite r.sized]

/-- In an exchange the handler is called at most once, and a write is started at most once. -/
lemma Exchange.once {env : Env W} {cs : List Call} (h : Exchange env cs) :
    cs.countP Call.isRequest ≤ 1 ∧ cs.countP Call.isWrite ≤ 1 := by
  cases h with
  | nothing => exact ⟨Nat.zero_le 1, Nat.zero_le 1⟩
  | empty _ => exact ⟨Nat.zero_le 1, Nat.le_refl 1⟩
  | answered _ _ => exact ⟨Nat.le_refl 1, Nat.le_refl 1⟩

/-- The handler of a read that failed calls nothing. -/
lemma calls_none (env : Env W) (c : Session) (p : Plugin W) : calls env c none p = [] := rfl

/-- The notes of a request that the handler does not get. -/
lemma calls_other (env : Env W) {c : Session} (h : c.request.method.isHandled = false)
    (p : Plugin W) :
    calls env c (some ()) p = [.asyncWrite (filled c.request c.response).sized] := by
  obtain ⟨name, hm⟩ := Verb.isHandled_eq_false h
  rw [calls, onReadNoted, processRequestNoted, hm]
  rfl

/-- A request for the handler has it fill the response. -/
lemma processRequestNoted_eq (env : Env W) {c : Session} (h : c.request.method.isHandled = true) :
    processRequestNoted env c =
      createResponseNoted env c.headed >>= fun s => startWriteNoted s := by
  rcases Verb.isHandled_eq_true h with hm | hm
  · rw [processRequestNoted, hm]
    rfl
  · rw [processRequestNoted, hm]
    rfl

/-- The notes of a request for the handler, while the socket has a client. -/
lemma calls_handled (env : Env W) {c : Session} (h : c.request.method.isHandled = true)
    {remote : Str} (hc : c.socket = .connected remote) {p q : Plugin W} {r : Response}
    (hr : Handler.handleRequest env c.request (filled c.request c.response) remote c.init_time p =
      (.ok r, q)) :
    calls env c (some ()) p =
      [.handleRequest c.request (filled c.request c.response) remote, .asyncWrite r.sized] := by
  have hcreate : createResponseNoted env c.headed (p, []) = (.ok { c.headed with response := r },
      q, [.handleRequest c.request (filled c.request c.response) remote]) := by
    have hfst : ∀ notes : List Call, (Prog.onFst (Handler.handleRequest env c.request
        (filled c.request c.response) remote c.init_time) :
          Prog (Plugin W × List Call) Exn Response) (p, notes) = (.ok r, q, notes) := by
      intro notes
      rw [Prog.onFst_run, hr]
    rw [createResponseNoted]
    show (Prog.lift c.socket.remote_endpoint >>= _ : Prog (Plugin W × List Call) Exn Session) _ = _
    rw [hc]
    show (Prog.onFst (Handler.handleRequest env c.request (filled c.request c.response) remote
      c.init_time) >>= _ : Prog (Plugin W × List Call) Exn Session) (p, [_]) = _
    rw [Prog.bind_ok (hfst _)]
    rfl
  rw [calls, onReadNoted, processRequestNoted_eq env h, Prog.bind_ok hcreate]
  rfl

/-- The notes of a request for the handler, if the socket has no client any more. -/
lemma calls_unconnected (env : Env W) {c : Session} (h : c.request.method.isHandled = true)
    (hc : c.socket.isConnected = false) (p : Plugin W) : calls env c (some ()) p = [] := by
  have hcreate : createResponseNoted env c.headed (p, []) = (.error .system_error, p, []) := by
    rw [createResponseNoted]
    show (Prog.lift c.socket.remote_endpoint >>= _ : Prog (Plugin W × List Call) Exn Session) _ = _
    rw [c.socket.remote_endpoint_throws hc]
    rfl
  rw [calls, onReadNoted, processRequestNoted_eq env h, Prog.bind_error hcreate]

/-- The handler of a read makes an exchange, and none if the read failed. -/
lemma calls_exchange (env : Env W) (c : Session) (result : Option Unit) {p : Plugin W}
    (hp : p.handler.Registered) :
    Exchange env (calls env c result p) ∧ (calls env c result p ≠ [] → result = some ()) := by
  cases result with
  | none => exact ⟨.nothing, fun h => absurd (calls_none env c p) h⟩
  | some _ =>
    refine ⟨?_, fun _ => rfl⟩
    cases hm : c.request.method.isHandled with
    | false =>
      rw [calls_other env hm]
      exact .empty hm
    | true =>
      cases hc : c.socket.isConnected with
      | false =>
        rw [calls_unconnected env hm hc]
        exact .nothing
      | true =>
        obtain ⟨remote, hremote⟩ := Socket.isConnected_iff.1 hc
        obtain ⟨q, -, hq⟩ := Handler.handleRequest_ends env c.request remote c.init_time hp
        obtain ⟨r, hr⟩ := hq (filled c.request c.response)
        rw [calls_handled env hm hremote hr]
        exact .answered hm hr

/-! ## What happens to a session -/

/-- What an event of the system makes of a session that is there. -/
inductive Moves (env : Env W) (p : Plugin W) (c : Session) : Session → Prop where
  | same : Moves env p c c
  | network {e c'} :
    c.step e = some c' →
    Moves env p c c'
  | readSome {n parsed c'} :
    c.readSome n parsed = some c' →
    Moves env p c c'
  | runRead {result c' q} :
    c.read = .ready result →
    onRead env { c with read := .done } result p = (.ok c', q) →
    Moves env p c c'
  | throws {result} :
    c.read = .ready result →
    Moves env p c { c with read := .done }
  | runWrite {result} :
    c.write = .ready result →
    Moves env p c { c with write := .done }.onWrite
  | runDeadline {result} :
    c.deadline = .ready result →
    Moves env p c ({ c with deadline := .done }.onDeadline result)

/-- While a session reads or writes, its deadline has not been cancelled, and if it has fired the socket
    is closed. A session that writes does not read any more. -/
structure Guarded (c : Session) : Prop where
  deadline : c.read.outstanding = true ∨ c.write.outstanding = true →
    c.deadline = .pending ∨ c.deadline = .ready (some ()) ∨
      (c.deadline = .done ∧ c.socket = .closed)
  order : c.write.outstanding = true → c.read.outstanding = false

/-- A new session has its deadline. -/
lemma start_guarded (c : Session) (h : c.write = .idle) : c.start.Guarded := by
  refine ⟨fun _ => .inl rfl, fun hw => ?_⟩
  have hw : c.write.outstanding = true := hw
  rw [h] at hw
  cases hw

/-- What the handler of a read leaves of a session. -/
lemma onRead_fields {env : Env W} {c c' : Session} {result : Option Unit} {p q : Plugin W}
    (hp : p.handler.Registered) (h : onRead env c result p = (.ok c', q)) :
    c'.read = c.read ∧ c'.deadline = c.deadline ∧ c'.socket = c.socket := by
  rcases onRead_cases env c result hp with
    ⟨-, h'⟩ | ⟨-, -, h'⟩ | ⟨-, -, -, h'⟩ | ⟨-, -, remote, r, q', -, -, h'⟩
  · cases h.symm.trans h'
    exact ⟨rfl, rfl, rfl⟩
  · cases h.symm.trans h'
    exact ⟨rfl, rfl, rfl⟩
  · cases h.symm.trans h'
  · cases h.symm.trans h'
    exact ⟨rfl, rfl, rfl⟩

/-- What the network and the timer leave of a session. -/
lemma step_fields {c c' : Session} {e : Event} (h : c.step e = some c') :
    c'.read.outstanding = c.read.outstanding ∧ c'.write.outstanding = c.write.outstanding ∧
      (c'.deadline = c.deadline ∨ c'.deadline = .ready (some ())) ∧
      (c.socket = .closed → c'.socket = .closed) ∧
      (c.deadline = .done → c'.deadline = .done) := by
  cases e with
  | received n =>
    obtain ⟨-, h⟩ := Option.ite_none_right_eq_some.1 h
    cases h
    exact ⟨rfl, rfl, .inl rfl, id, id⟩
  | peerReset =>
    obtain ⟨hconn, h⟩ := Option.ite_none_right_eq_some.1 h
    cases h
    refine ⟨Op.outstanding_cancel _, Op.outstanding_cancel _, .inl rfl, fun hc => ?_, id⟩
    rw [hc] at hconn
    cases hconn
  | readFailed =>
    obtain ⟨op, hop, rfl⟩ := Option.map_eq_some_iff.1 h
    obtain ⟨hp, rfl⟩ := Op.complete_eq_some.1 hop
    exact ⟨by rw [hp]; rfl, rfl, .inl rfl, id, id⟩
  | written result =>
    obtain ⟨op, hop, rfl⟩ := Option.map_eq_some_iff.1 h
    obtain ⟨hp, rfl⟩ := Op.complete_eq_some.1 hop
    exact ⟨rfl, by rw [hp]; rfl, .inl rfl, id, id⟩
  | expire =>
    obtain ⟨op, hop, rfl⟩ := Option.map_eq_some_iff.1 h
    obtain ⟨hp, rfl⟩ := Op.complete_eq_some.1 hop
    refine ⟨rfl, rfl, .inr rfl, id, fun hd => ?_⟩
    cases hp.symm.trans hd

lemma readSome_fields {c c' : Session} {n : Nat} {parsed : Parsed}
    (h : c.readSome n parsed = some c') :
    c.read.outstanding = true ∧ c'.read.outstanding = true ∧ c'.write = c.write ∧
      c'.deadline = c.deadline ∧ c'.socket = c.socket := by
  obtain ⟨⟨hp, -, -⟩, h⟩ := Option.ite_none_right_eq_some.1 h
  have hread : c.read.outstanding = true := by
    rw [hp]
    rfl
  cases parsed with
  | more =>
    cases h
    exact ⟨hread, hread, rfl, rfl, rfl⟩
  | bad =>
    cases h
    exact ⟨hread, rfl, rfl, rfl, rfl⟩
  | complete request =>
    cases h
    exact ⟨hread, rfl, rfl, rfl, rfl⟩

/-- Whatever happens to a session keeps it guarded. -/
theorem Moves.guarded {env : Env W} {p : Plugin W} {c c' : Session} (hp : p.handler.Registered)
    (h : Moves env p c c') (hc : c.Guarded) : c'.Guarded := by
  cases h with
  | same => exact hc
  | network h =>
    obtain ⟨hread, hwrite, hdeadline, hsocket, hdone⟩ := step_fields h
    refine ⟨fun ho => ?_, fun ho => ?_⟩
    · rw [hread, hwrite] at ho
      rcases hdeadline with hd | hd
      · rcases hc.deadline ho with h | h | ⟨h, hs⟩
        · exact .inl (hd.trans h)
        · exact .inr (.inl (hd.trans h))
        · exact .inr (.inr ⟨hd.trans h, hsocket hs⟩)
      · exact .inr (.inl hd)
    · rw [hwrite] at ho
      rw [hread]
      exact hc.order ho
  | readSome h =>
    obtain ⟨hread, -, hwrite, hdeadline, hsocket⟩ := readSome_fields h
    refine ⟨fun _ => ?_, fun ho => ?_⟩
    · rw [hdeadline, hsocket]
      exact hc.deadline (.inl hread)
    · -- the session does not read while it writes
      rw [hwrite] at ho
      cases hread.symm.trans (hc.order ho)
  | runRead hr h =>
    obtain ⟨hread, hdeadline, hsocket⟩ := onRead_fields hp h
    refine ⟨fun _ => ?_, fun _ => ?_⟩
    · rw [hdeadline, hsocket]
      exact hc.deadline (.inl (by rw [hr]; rfl))
    · rw [hread]
      rfl
  | throws hr => exact ⟨fun _ => hc.deadline (.inl (by rw [hr]; rfl)), fun _ => rfl⟩
  | runWrite hw =>
    have hread : c.read.outstanding = false := hc.order (by rw [hw]; rfl)
    refine ⟨fun ho => ?_, nofun⟩
    -- nothing is left that the deadline guards
    rcases ho with ho | ho
    · cases hread.symm.trans ho
    · cases ho
  | @runDeadline result hd =>
    cases result with
    | some _ =>
      refine ⟨fun _ => .inr (.inr ⟨rfl, rfl⟩), fun ho => ?_⟩
      exact (Op.outstanding_cancel _).trans (hc.order ((Op.outstanding_cancel _).symm.trans ho))
    | none =>
      refine ⟨fun ho => ?_, hc.order⟩
      -- a deadline is only cancelled when there is nothing to guard any more
      rcases hc.deadline ho with h | h | ⟨h, -⟩
      · cases hd.symm.trans h
      · cases hd.symm.trans h
      · cases hd.symm.trans h

/-- A session that has read its request does not read again. -/
lemma Moves.read_over {env : Env W} {p : Plugin W} {c c' : Session} (hp : p.handler.Registered)
    (h : Moves env p c c') (hc : c.read.outstanding = false) : c'.read.outstanding = false := by
  cases h with
  | same => exact hc
  | network h => exact (step_fields h).1.trans hc
  | readSome h => cases hc.symm.trans (readSome_fields h).1
  | runRead _ h =>
    rw [(onRead_fields hp h).1]
    rfl
  | throws _ => rfl
  | runWrite _ => exact hc
  | @runDeadline result _ =>
    cases result with
    | some _ => exact (Op.outstanding_cancel _).trans hc
    | none => exact hc

end Session

namespace System

/-- The calls that an event makes for a session: the handler of its read makes them, and no other. -/
def calls (env : Env W) (i : Nat) (s : System W) : Event W → List Session.Call
  | .runRead j =>
    if j = i then
      match s.sessions[i]? with
      | some c =>
        match c.read.take with
        | some result => Session.calls env { c with read := .done } result s.plugin
        | none => []
      | none => []
    else []
  | _ => []

/-- An event changes a session that is there in one of the ways of `Session.Moves`. -/
lemma step_session {env : Env W} {s t : System W} {e : Event W} (h : s.step env e = some t) {i : Nat}
    {c : Session} (hc : s.sessions[i]? = some c) :
    ∃ c', t.sessions[i]? = some c' ∧ Session.Moves env s.plugin c c' := by
  have hset : ∀ {j : Nat} {d d' : Session}, s.sessions[j]? = some d →
      Session.Moves env s.plugin d d' →
      ∃ c', (s.sessions.set j d')[i]? = some c' ∧ Session.Moves env s.plugin c c' := by
    intro j d d' hd hm
    rw [List.getElem?_set]
    by_cases hj : j = i
    · subst hj
      cases hc.symm.trans hd
      obtain ⟨hlt, -⟩ := List.getElem?_eq_some_iff.1 hc
      rw [if_pos rfl, if_pos hlt]
      exact ⟨d', rfl, hm⟩
    · rw [if_neg hj]
      exact ⟨c, hc, .same⟩
  cases step_moves h with
  | command _ =>
    rw [command_sessions]
    exact ⟨c, hc, .same⟩
  | accepted _ => exact ⟨c, hc, .same⟩
  | network hd hm => exact hset hd (.network hm)
  | @runAccept result next _ _ =>
    cases result with
    | none => exact ⟨c, hc, .same⟩
    | some conn =>
      refine ⟨c, ?_, .same⟩
      show (s.sessions ++ [_])[i]? = some c
      obtain ⟨hlt, -⟩ := List.getElem?_eq_some_iff.1 hc
      rw [List.getElem?_append_left hlt]
      exact hc
  | readSome _ hd hm => exact hset hd (.readSome hm)
  | runRead _ hd hr hx => exact hset hd (.runRead hr hx)
  | throws _ hd hr _ => exact hset hd (.throws hr)
  | runWrite _ hd hw => exact hset hd (.runWrite hw)
  | runDeadline _ hd hr => exact hset hd (.runDeadline hr)
  | pollReturn _ _ => exact ⟨c, hc, .same⟩

/-- A session that was not there is one that has just been started. -/
lemma step_new {env : Env W} {s t : System W} {e : Event W} (h : s.step env e = some t) {i : Nat}
    {c' : Session} (hc' : t.sessions[i]? = some c') (hc : s.sessions[i]? = none) :
    ∃ c : Session, c.write = .idle ∧ c' = c.start := by
  have hlen := List.getElem?_eq_none_iff.1 hc
  have hset : ∀ {j : Nat} {d : Session}, (s.sessions.set j d)[i]? ≠ some c' := by
    intro j d hd
    rw [List.getElem?_eq_none (by rw [List.length_set]; exact hlen)] at hd
    cases hd
  have hsame : s.sessions[i]? ≠ some c' := by
    rw [hc]
    nofun
  cases step_moves h with
  | command _ =>
    rw [command_sessions] at hc'
    exact absurd hc' hsame
  | accepted _ => exact absurd hc' hsame
  | network _ _ => exact absurd hc' hset
  | @runAccept result next _ _ =>
    cases result with
    | none => exact absurd hc' hsame
    | some conn =>
      have hc' : (s.sessions ++ [_])[i]? = some c' := hc'
      rw [List.getElem?_append_right hlen] at hc'
      obtain ⟨_, heq⟩ := List.getElem?_eq_some_iff.1 hc'
      rw [List.getElem_singleton] at heq
      exact ⟨_, rfl, heq.symm⟩
  | readSome _ _ _ => exact absurd hc' hset
  | runRead _ _ _ _ => exact absurd hc' hset
  | throws _ _ _ _ => exact absurd hc' hset
  | runWrite _ _ _ => exact absurd hc' hset
  | runDeadline _ _ _ => exact absurd hc' hset
  | pollReturn _ _ => exact absurd hc' hsame

/-! ## Runs -/

/-- The route table is filled, and every session is guarded. -/
structure Safe (s : System W) : Prop where
  registered : s.plugin.handler.Registered
  guarded : ∀ (i : Nat) (c : Session), s.sessions[i]? = some c → c.Guarded

lemma initial_safe {p : Plugin W} (hp : p.handler.Registered) : (initial p).Safe :=
  ⟨hp, fun i c hc => by cases hc⟩

theorem step_safe (env : Env W) (s : System W) (e : Event W) (t : System W)
    (h : s.step env e = some t) (hs : s.Safe) : t.Safe := by
  refine ⟨(System.step_settings env hs.registered h).registered hs.registered, fun i c' hc' => ?_⟩
  cases hc : s.sessions[i]? with
  | none =>
    obtain ⟨c, hw, rfl⟩ := step_new h hc' hc
    exact Session.start_guarded c hw
  | some c =>
    obtain ⟨d, hd, hm⟩ := step_session h hc
    cases hc'.symm.trans hd
    exact hm.guarded hs.registered (hs.guarded i c hc)

/-- The handler of a read makes the calls of its session. -/
lemma calls_runRead {env : Env W} {i : Nat} {s : System W} {c : Session} {result : Option Unit}
    (hc : s.sessions[i]? = some c) (hr : c.read.take = some result) :
    s.calls env i (.runRead i) = Session.calls env { c with read := .done } result s.plugin := by
  simp only [calls, if_true, hc, hr]

/-- A call is made by the handler of the session's read. -/
lemma mem_calls {env : Env W} {i : Nat} {s : System W} {e : Event W} (h : s.calls env i e ≠ []) :
    ∃ c result, e = .runRead i ∧ s.sessions[i]? = some c ∧ c.read = .ready result ∧
      s.calls env i e = Session.calls env { c with read := .done } result s.plugin := by
  cases e with
  | runRead j =>
    by_cases hj : j = i
    · subst hj
      cases hc : s.sessions[j]? with
      | none =>
        refine absurd ?_ h
        simp only [calls, if_true, hc]
      | some c =>
        cases hr : c.read.take with
        | none =>
          refine absurd ?_ h
          simp only [calls, if_true, hc, hr]
        | some result =>
          exact ⟨c, result, rfl, rfl, Op.take_eq_some.1 hr, calls_runRead hc hr⟩
    · refine absurd ?_ h
      rw [calls, if_neg hj]
  | _ => exact absurd rfl h

/-- The session has not read its request yet, if it is there. -/
def Fresh (i : Nat) (s : System W) : Prop :=
  ∀ c, s.sessions[i]? = some c → c.read.outstanding = true

/-- The calls for a session that has not read its request yet are an exchange, after which it has. -/
lemma fresh_calls {env : Env W} {s t : System W} {e : Event W} (h : s.step env e = some t)
    (hs : s.Safe) (i : Nat) :
    Session.Exchange env (s.calls env i e) ∧ (Fresh i t → s.calls env i e = []) := by
  by_cases hnil : s.calls env i e = []
  · rw [hnil]
    exact ⟨.nothing, fun _ => rfl⟩
  · obtain ⟨c, result, rfl, hc, hr, hcalls⟩ := mem_calls hnil
    rw [hcalls]
    refine ⟨(Session.calls_exchange env _ result hs.registered).1, fun hf => ?_⟩
    -- the handler leaves the session with its read done
    obtain ⟨hlt, -⟩ := List.getElem?_eq_some_iff.1 hc
    cases step_moves h with
    | runRead _ hd _ hx =>
      cases hc.symm.trans hd
      have hread := hf _ (by rw [List.getElem?_set_self hlt])
      rw [(Session.onRead_fields hs.registered hx).1] at hread
      cases hread
    | throws _ hd _ _ =>
      cases hc.symm.trans hd
      cases hf _ (by rw [List.getElem?_set_self hlt])

/-- For a session that has read its request nothing is called any more. -/
lemma over_calls {env : Env W} {s t : System W} {e : Event W} (h : s.step env e = some t)
    (hs : s.Safe) {i : Nat} (hf : ¬ Fresh i s) : s.calls env i e = [] ∧ ¬ Fresh i t := by
  obtain ⟨c, hc, hread⟩ : ∃ c, s.sessions[i]? = some c ∧ c.read.outstanding = false := by
    by_contra hno
    refine hf fun c hc => ?_
    by_contra hread
    exact hno ⟨c, hc, Bool.eq_false_of_not_eq_true hread⟩
  constructor
  · by_contra hnil
    obtain ⟨d, result, -, hd, hr, -⟩ := mem_calls hnil
    cases hc.symm.trans hd
    rw [hr] at hread
    cases hread
  · intro hft
    obtain ⟨c', hc', hm⟩ := step_session h hc
    cases (hm.read_over hs.registered hread).symm.trans (hft c' hc')

/-- The protocol of a session. In every run of the system, whatever the order in which the handlers of
    the session are run, it calls the request handler at most once and starts to write at most once,
    with the response that the request handler returned, or an empty one, with its head filled in; it
    does so in the handler of its read, told that the read succeeded; and while a read or a write is
    outstanding, so is its deadline, or the deadline has fired and closed the socket. The handler of the
    read that notes these calls ends, but for the notes, as the one that the endpoint runs. -/
theorem session_protocol (env : Env W) {p : Plugin W} (hp : p.handler.Registered)
    (es : List (Event W)) (i : Nat) :
    let cs := trace (step env) (calls env i) (initial p) es
    Session.Exchange env cs ∧
    (cs.countP Session.Call.isRequest ≤ 1 ∧ cs.countP Session.Call.isWrite ≤ 1) ∧
    (∀ u e, Takes (step env) (initial p) es u e → u.calls env i e ≠ [] →
      e = .runRead i ∧ ∃ c, u.sessions[i]? = some c ∧ c.read = .ready (some ())) ∧
    (∀ u c, Visits (step env) (initial p) es u → u.sessions[i]? = some c →
      c.read.outstanding = true ∨ c.write.outstanding = true →
      c.deadline.outstanding = true ∨ (c.deadline = .done ∧ c.socket = .closed)) ∧
    (∀ c result q, Session.onRead env c result q =
      ((Session.onReadNoted env c result (q, [])).1, (Session.onReadNoted env c result (q, [])).2.1)) := by
  intro cs
  have hsafe : ∀ u pre, run (step env) (initial p) pre = some u → u.Safe := fun u pre hu =>
    run_invariant (step_safe env) hu (initial_safe hp)
  have hfresh : Fresh i (initial p) := fun c hc => by cases hc
  have hcs : Session.Exchange env cs :=
    (trace_once (F := Fresh i) .nothing (step_safe env) (fun s e t h hs _ => fresh_calls h hs i)
      (fun s e t h hs hf => over_calls h hs hf) (initial_safe hp) es).1 hfresh
  refine ⟨hcs, hcs.once, fun u e htakes hcalls => ?_, fun u c hvisits hc ho => ?_,
    Session.onReadNoted_run env⟩
  · obtain ⟨pre, suf, -, hu⟩ := htakes
    obtain ⟨c, result, he, hc, hread, heq⟩ := mem_calls hcalls
    have hsome := (Session.calls_exchange env { c with read := .done } result
      (hsafe u pre hu).registered).2 (heq ▸ hcalls)
    exact ⟨he, c, hc, hsome ▸ hread⟩
  · obtain ⟨pre, suf, -, hu⟩ := hvisits
    rcases ((hsafe u pre hu).guarded i c hc).deadline ho with h | h | h
    · exact .inl (by rw [h]; rfl)
    · exact .inl (by rw [h]; rfl)
    · exact .inr h

/-- In the exchange of one client, the session calls the handler and writes the response. -/
theorem session_protocol_exchange :
    let cs := trace (step Demo.env) (calls Demo.env 0) (initial (Demo.plugin {})) exchange
    Session.Exchange Demo.env cs ∧ cs.countP Session.Call.isRequest = 1 ∧
      cs.countP Session.Call.isWrite = 1 := by
  have hp : (Demo.plugin {}).handler.Registered := ⟨rfl, rfl⟩
  obtain ⟨h, -⟩ := session_protocol Demo.env hp exchange 0
  exact ⟨h, by decide +kernel, by decide +kernel⟩

end System
end SampApi

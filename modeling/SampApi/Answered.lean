import SampApi.Serial

/-!
# What becomes of a session

`serializable` says that a client gets no answer but the one to its request. Here is the other half: a
request that was read completely is answered by the end of the tick, unless its client was gone when the
handler of the read was run (`no_request_lost`). From when the request is read until a tick ends its
session is `Owed` an answer or has one, if it is not `Gone` when the handler is run; and a tick does not
end while a session is owed one.

And no client stays for ever: when the deadline of a session has expired, the session is over by the end
of the tick (`expired_over`), whatever it was doing.

Both are about one session while anything happens to the others. What is `Kept` by all that can happen
to a session is kept by all events of the endpoint (`step_keeps`), but for a handler that throws.
-/

namespace SampApi
open Lib

variable {W : Type}

/-! ## Properties of one session -/

/-- Nothing that can happen to a session takes the property `P` away, but that the handler of the read
    throws when the session has the property `X`. -/
structure Session.Kept (env : Env W) (P X : Session → Prop) : Prop where
  step : ∀ {c c' e}, P c → c.step e = some c' → P c'
  readSome : ∀ {c c' n parsed}, P c → c.readSome n parsed = some c' → P c'
  onRead : ∀ {c : Session} {result} {s : Plugin W}, P c → c.read = .ready result →
    s.handler.Registered →
      (∀ c' q, onRead env { c with read := .done } result s = (.ok c', q) → P c') ∧
      (∀ x q, onRead env { c with read := .done } result s = (.error x, q) →
        P { c with read := .done } ∨ X c)
  onWrite : ∀ {c : Session} {result}, P c → c.write = .ready result → P { c with write := .done }.onWrite
  onDeadline : ∀ {c : Session} {result}, P c → c.deadline = .ready result →
    P ({ c with deadline := .done }.onDeadline result)

namespace System
variable {env : Env W} {s t : System W} {P X : Session → Prop} {i : Nat}

/-- The session is there and has the property. -/
def Has (s : System W) (i : Nat) (P : Session → Prop) : Prop := ∃ c, s.sessions[i]? = some c ∧ P c

/-- Another session changes, or this one does in a way that does not take the property away. -/
lemma has_set {sessions : List Session} {j : Nat} {c d d' : Session} (hc : sessions[i]? = some c)
    (hd : sessions[j]? = some d) (h : P c) (hkeep : P d → P d') :
    ∃ c', (sessions.set j d')[i]? = some c' ∧ P c' := by
  by_cases hij : j = i
  · subst hij
    cases hc.symm.trans hd
    exact ⟨d', List.getElem?_set_self (List.getElem?_eq_some_iff.1 hc).1, hkeep h⟩
  · exact ⟨c, by rw [List.getElem?_set_ne hij, hc], h⟩

/-- No event of the endpoint takes away what is kept by all that can happen to a session, but the handler
    of its read. -/
theorem step_keeps (hP : Session.Kept env P X) (hs : s.plugin.handler.Registered) {e : Event W}
    (he : s.step env e = some t) (h : s.Has i P) : t.Has i P ∨ e = .runRead i ∧ s.Has i X := by
  obtain ⟨c, hc, h⟩ := h
  cases step_moves he with
  | command _ =>
    refine .inl ⟨c, ?_, h⟩
    rw [command_sessions]
    exact hc
  | accepted _ => exact .inl ⟨c, hc, h⟩
  | network hd hstep => exact .inl (has_set hc hd h fun h => hP.step h hstep)
  | @runAccept result next _ _ =>
    cases result with
    | none => exact .inl ⟨c, hc, h⟩
    | some conn =>
      refine .inl ⟨c, ?_, h⟩
      show (s.sessions ++ [_])[i]? = some c
      rw [List.getElem?_append_left (List.getElem?_eq_some_iff.1 hc).1, hc]
  | readSome _ hd hread => exact .inl (has_set hc hd h fun h => hP.readSome h hread)
  | runRead _ hd hr hx => exact .inl (has_set hc hd h fun h => (hP.onRead h hr hs).1 _ _ hx)
  | @throws j d _ _ _ _ hd hr hx =>
    by_cases hij : j = i
    · subst hij
      cases hc.symm.trans hd
      rcases (hP.onRead h hr hs).2 _ _ hx with h' | h'
      · exact .inl (has_set hc hd h fun _ => h')
      · exact .inr ⟨rfl, c, hc, h'⟩
    · refine .inl ⟨c, ?_, h⟩
      show (s.sessions.set j _)[i]? = some c
      rw [List.getElem?_set_ne hij, hc]
  | runWrite _ hd hw => exact .inl (has_set hc hd h fun h => hP.onWrite h hw)
  | runDeadline _ hd hr => exact .inl (has_set hc hd h fun h => hP.onDeadline h hr)
  | pollReturn _ _ => exact .inl ⟨c, hc, h⟩

/-- Nor does a run, unless it takes such a step. -/
lemma run_keeps (hP : Session.Kept env P X) (hs : s.plugin.handler.Registered) {es : List (Event W)}
    (hr : run (step env) s es = some t) (h : s.Has i P) :
    t.Has i P ∨ ∃ u, Takes (step env) s es u (.runRead i) ∧ u.Has i X := by
  have hboth := run_or_takes (I := fun s => s.plugin.handler.Registered ∧ s.Has i P)
    (X := fun s e => e = .runRead i ∧ s.Has i X)
    (fun u e v he h => (step_keeps hP h.1 he h.2).imp_left fun h' =>
      ⟨(step_settings env h.1 he).registered h.1, h'⟩) hr ⟨hs, h⟩
  rcases hboth with ⟨-, h⟩ | ⟨u, e, ht, rfl, hx⟩
  · exact .inl h
  · exact .inr ⟨u, ht, hx⟩

/-- When a tick ends, no handler of a session can be run. -/
lemma pollReturn_runnable (he : s.step env .pollReturn = some t) :
    t.sessions = s.sessions ∧
      ∀ (i : Nat) (c : Session), s.sessions[i]? = some c → c.runnable = false := by
  cases step_moves he with
  | pollReturn _ hq =>
    refine ⟨rfl, fun i c hc => ?_⟩
    have h := List.all_eq_true.1 (Bool.and_eq_true_iff.1 hq).2 c (List.mem_of_getElem? hc)
    rwa [Bool.not_eq_true'] at h

end System

/-! ## Requests -/

namespace Session

/-- What has become of a request that was read: the handler of its read is still to be run, or it has
    been run and the response is on its way. -/
inductive Owed (req : Request) (c : Session) : Prop where
  | waits : c.request = req → c.read = .ready (some ()) → c.write = .idle → Owed req c
  | answered : c.request = req → c.read = .done → c.write ≠ .idle → Owed req c

/-- The handler of the read of this request is to be run, and there is no client left to be answered. -/
structure Gone (req : Request) (c : Session) : Prop where
  request : c.request = req
  read : c.read = .ready (some ())
  socket : c.socket.isConnected = false
  isHandled : req.method.isHandled = true

variable {req : Request} {c c' : Session}

/-- A closed or reset socket takes no request away. -/
lemma Owed.disconnect (h : c.Owed req) (socket : Socket) :
    { c with socket, read := c.read.cancel, write := c.write.cancel }.Owed req := by
  cases h with
  | waits hreq hr hw =>
    refine .waits hreq ?_ ((cancel_eq_idle _).2 hw)
    show c.read.cancel = _
    rw [hr]
    rfl
  | answered hreq hr hw =>
    refine .answered hreq ?_ fun h => hw ((cancel_eq_idle _).1 h)
    show c.read.cancel = _
    rw [hr]
    rfl

/-- The network and the timer take no request away. -/
lemma Owed.step (h : c.Owed req) {e : Event} (he : c.step e = some c') : c'.Owed req := by
  cases e with
  | received n =>
    obtain ⟨-, he⟩ := Option.ite_none_right_eq_some.1 he
    cases he
    cases h with
    | waits hreq hr hw => exact .waits hreq hr hw
    | answered hreq hr hw => exact .answered hreq hr hw
  | peerReset =>
    obtain ⟨-, he⟩ := Option.ite_none_right_eq_some.1 he
    cases he
    exact h.disconnect _
  | readFailed =>
    -- the read is over, and cannot fail
    obtain ⟨op, hop, rfl⟩ := Option.map_eq_some_iff.1 he
    obtain ⟨hp, rfl⟩ := Op.complete_eq_some.1 hop
    cases h with
    | waits _ hr _ => cases hp.symm.trans hr
    | answered _ hr _ => cases hp.symm.trans hr
  | written result =>
    obtain ⟨op, hop, rfl⟩ := Option.map_eq_some_iff.1 he
    obtain ⟨hp, rfl⟩ := Op.complete_eq_some.1 hop
    cases h with
    | waits _ _ hw => cases hp.symm.trans hw
    | answered hreq hr _ => exact .answered hreq hr (by simp)
  | expire =>
    obtain ⟨op, -, rfl⟩ := Option.map_eq_some_iff.1 he
    cases h with
    | waits hreq hr hw => exact .waits hreq hr hw
    | answered hreq hr hw => exact .answered hreq hr hw

/-- The handler of the write. -/
lemma Owed.onWrite (h : c.Owed req) {result : Option Unit} (hp : c.write = .ready result) :
    ({ c with write := .done } : Session).onWrite.Owed req := by
  cases h with
  | waits _ _ hw => cases hp.symm.trans hw
  | answered hreq hr _ =>
    refine .answered hreq hr ?_
    show Op.done ≠ Op.idle
    simp

/-- The handler of the deadline. -/
lemma Owed.onDeadline (h : c.Owed req) (result : Option Unit) :
    (({ c with deadline := .done } : Session).onDeadline result).Owed req := by
  have hd : ({ c with deadline := .done } : Session).Owed req := by
    cases h with
    | waits hreq hr hw => exact .waits hreq hr hw
    | answered hreq hr hw => exact .answered hreq hr hw
  cases result with
  | none => exact hd
  | some _ => exact hd.disconnect _

lemma startWrite_ne_idle (c : Session) : c.startWrite.write ≠ .idle := by
  show (if c.socket.isConnected then _ else _ : Op Unit) ≠ .idle
  cases c.socket.isConnected <;> simp

/-- The handler of the read answers the request, or throws because the client is gone. -/
lemma Owed.onRead (env : Env W) (h : c.Owed req) {result : Option Unit} (hp : c.read = .ready result)
    {s : Plugin W} (hs : s.handler.Registered) :
    (∀ c' q, onRead env { c with read := .done } result s = (.ok c', q) → c'.Owed req) ∧
    (∀ x q, onRead env { c with read := .done } result s = (.error x, q) →
      ({ c with read := .done } : Session).Owed req ∨ c.Gone req) := by
  cases h with
  | answered _ hr _ => cases hp.symm.trans hr
  | waits hreq hr _ =>
    cases hp.symm.trans hr
    rcases onRead_cases env { c with read := .done } (some ()) hs with
      ⟨h, -⟩ | ⟨-, -, h⟩ | ⟨-, hm, hc, h⟩ | ⟨-, -, remote, r, q, -, -, h⟩
    · cases h
    · refine ⟨fun c' q he => ?_, fun x q he => ?_⟩
      · cases h.symm.trans he
        exact .answered hreq rfl (startWrite_ne_idle _)
      · cases h.symm.trans he
    · refine ⟨fun c' q he => ?_, fun x q he => .inr ⟨hreq, hr, hc, hreq ▸ hm⟩⟩
      cases h.symm.trans he
    · refine ⟨fun c' q he => ?_, fun x q he => ?_⟩
      · cases h.symm.trans he
        exact .answered hreq rfl (startWrite_ne_idle _)
      · cases h.symm.trans he

/-- A session that has read its request does not read on. -/
lemma Owed.not_reading (h : c.Owed req) : c.read ≠ .pending := by
  cases h with
  | waits _ hr _ => simp [hr]
  | answered _ hr _ => simp [hr]

lemma owed_kept {env : Env W} : Kept env (Owed req) (Gone req) where
  step h he := h.step he
  readSome h he := absurd (Option.ite_none_right_eq_some.1 he).1.1 h.not_reading
  onRead h hr hs := h.onRead env hr hs
  onWrite h hw := h.onWrite hw
  onDeadline h _ := h.onDeadline _

end Session

namespace System
variable {env : Env W} {s t : System W} {req : Request} {i : Nat}

/-- A session that has read its request completely owes an answer. -/
lemma readSome_owes {n : Nat} {v : Server W} {os : List (Server.Item W × Option Response)}
    (hv : s.Refines v os) (he : s.step env (.readSome i n (.complete req)) = some t) :
    t.Has i (Session.Owed req) := by
  cases step_moves he with
  | @readSome _ _ _ c c' _ hc hread =>
    obtain ⟨d, -, hd⟩ := hv.serves i c hc
    obtain ⟨⟨hp, -, -⟩, hread⟩ := Option.ite_none_right_eq_some.1 hread
    have hw : c.write = .idle := hd.write_idle (by rw [hp]; simp)
    cases hread
    exact ⟨_, List.getElem?_set_self (List.getElem?_eq_some_iff.1 hc).1, .waits rfl rfl hw⟩

/-- No request is lost. In every run of the endpoint, when a tick ends, every request that a session has
    read completely at any time before has been answered by this session, or it is one for the handler
    and the run has come to a state in which the client was gone and the handler of this read was run. -/
theorem no_request_lost (env : Env W) {p : Plugin W} (hp : p.handler.Registered)
    {pre suf : List (Event W)} {i n : Nat} {req : Request} {t : System W}
    (hr : run (step env) (initial p)
      (pre ++ .readSome i n (.complete req) :: (suf ++ [.pollReturn])) = some t) :
    (∃ c r, t.sessions[i]? = some c ∧ c.written = some (req, r)) ∨
      ∃ mid post u d, suf = mid ++ .runRead i :: post ∧
        run (step env) (initial p) (pre ++ .readSome i n (.complete req) :: mid) = some u ∧
        u.sessions[i]? = some d ∧ d.Gone req := by
  obtain ⟨u, hu, hr⟩ := run_append_some.1 hr
  obtain ⟨v, hv, hr⟩ := (run_cons_some _).1 hr
  obtain ⟨w, hw, ht⟩ := run_concat_some.1 hr
  have hrefines := (initial_refines hp).of_run hu
  have hreg : v.plugin.handler.Registered :=
    (step_settings env hrefines.registered hv).registered hrefines.registered
  -- from when it was read to the end of the tick
  rcases run_keeps Session.owed_kept hreg hw (readSome_owes hrefines hv) with
    ⟨c, hc, h⟩ | ⟨x, ⟨mid, post, hsuf, hmid⟩, d, hd, hgone⟩
  · left
    obtain ⟨hsessions, hrunnable⟩ := pollReturn_runnable ht
    refine ⟨c, c.response, (congrArg (·[i]?) hsessions).trans hc, ?_⟩
    cases h with
    | waits hreq hread _ =>
      -- its handler could be run
      have hrunnable := hrunnable i c hc
      rw [Session.runnable, hread] at hrunnable
      cases hrunnable
    | answered hreq _ hwrite => rw [Session.written, if_neg hwrite, hreq]
  · right
    refine ⟨mid, post, x, d, hsuf, ?_, hd, hgone⟩
    exact run_append_some.2 ⟨u, hu, (run_cons_some _).2 ⟨v, hv, hmid⟩⟩

/-- One client sends its request, and the tick ends. -/
def Demo.asking : List (Event Demo.Game) := [
  .command .gameModeInit, .accepted (some ⟨Demo.remote, 40⟩), .command .processTick, .runAccept .waits]

/-- The client is answered. -/
theorem no_request_lost_exchange :
    ∃ t c r, run (step Demo.env) (initial (Demo.plugin {}))
        (Demo.asking ++ .readSome 0 40 (.complete Demo.visit) :: ([.runRead 0] ++ [.pollReturn])) =
          some t ∧ t.sessions[0]? = some c ∧ c.written = some (Demo.visit, r) := by
  have hr : (run (step Demo.env) (initial (Demo.plugin {})) (Demo.asking ++
      .readSome 0 40 (.complete Demo.visit) :: ([.runRead 0] ++ [.pollReturn]))).isSome = true := by
    decide +kernel
  obtain ⟨t, hr⟩ := Option.isSome_iff_exists.1 hr
  rcases no_request_lost Demo.env ⟨rfl, rfl⟩ hr with
    ⟨c, r, hc, h⟩ | ⟨mid, post, u, d, hsuf, hmid, hd, hgone⟩
  · exact ⟨t, c, r, hr, hc, h⟩
  · -- the handler was run once, and the client was there
    cases mid with
    | nil =>
      have hthere : ((run (step Demo.env) (initial (Demo.plugin {})) (Demo.asking ++
          [.readSome 0 40 (.complete Demo.visit)])).bind (·.sessions[0]?)).map
            (·.socket.isConnected) = some true := by
        decide +kernel
      rw [hmid, Option.bind_some, hd, Option.map_some, hgone.socket] at hthere
      cases hthere
    | cons e mid => cases mid <;> cases hsuf

end System

/-! ## Deadlines -/

namespace Session

/-- The deadline of a session has expired: its handler is still to be run, or it has been run and has
    closed the socket. -/
inductive Expired (c : Session) : Prop where
  | fires : c.deadline = .ready (some ()) → Expired c
  | closed : c.deadline = .done → c.socket = .closed → c.read ≠ .pending → c.write ≠ .pending →
    Expired c

variable {c c' : Session}

lemma cancel_ne_pending {ρ : Type} (op : Op ρ) : op.cancel ≠ .pending := by
  cases op <;> simp [Op.cancel]

/-- The network can do nothing to a closed session, and the timer has no second deadline. -/
lemma Expired.step (h : c.Expired) {e : Event} (he : c.step e = some c') : c'.Expired := by
  cases e with
  | received n =>
    obtain ⟨hconn, he⟩ := Option.ite_none_right_eq_some.1 he
    cases he
    cases h with
    | fires hd => exact .fires hd
    | closed _ hs _ _ =>
      rw [hs] at hconn
      cases hconn
  | peerReset =>
    obtain ⟨hconn, he⟩ := Option.ite_none_right_eq_some.1 he
    cases he
    cases h with
    | fires hd => exact .fires hd
    | closed _ hs _ _ =>
      rw [hs] at hconn
      cases hconn
  | readFailed =>
    obtain ⟨op, hop, rfl⟩ := Option.map_eq_some_iff.1 he
    obtain ⟨hp, rfl⟩ := Op.complete_eq_some.1 hop
    cases h with
    | fires hd => exact .fires hd
    | closed _ _ hr _ => exact absurd hp hr
  | written result =>
    obtain ⟨op, hop, rfl⟩ := Option.map_eq_some_iff.1 he
    obtain ⟨hp, rfl⟩ := Op.complete_eq_some.1 hop
    cases h with
    | fires hd => exact .fires hd
    | closed _ _ _ hw => exact absurd hp hw
  | expire =>
    obtain ⟨op, hop, rfl⟩ := Option.map_eq_some_iff.1 he
    obtain ⟨hp, rfl⟩ := Op.complete_eq_some.1 hop
    cases h with
    | fires hd => cases hp.symm.trans hd
    | closed hd _ _ _ => cases hp.symm.trans hd

/-- Only a session that is not closed yet can go on reading. -/
lemma Expired.readSome (h : c.Expired) {n : Nat} {parsed : Parsed}
    (he : c.readSome n parsed = some c') : c'.Expired := by
  obtain ⟨⟨hp, -, -⟩, he⟩ := Option.ite_none_right_eq_some.1 he
  cases h with
  | fires hd => cases parsed <;> (cases he; exact .fires hd)
  | closed _ _ hr _ => exact absurd hp hr

/-- A write that is begun on a closed socket fails at once. -/
lemma Expired.onRead (env : Env W) (h : c.Expired) {result : Option Unit} {s : Plugin W}
    (hs : s.handler.Registered) :
    (∀ c' q, onRead env { c with read := .done } result s = (.ok c', q) → c'.Expired) ∧
    (∀ x q, onRead env { c with read := .done } result s = (.error x, q) →
      ({ c with read := .done } : Session).Expired) := by
  have hdone : ({ c with read := .done } : Session).Expired := by
    cases h with
    | fires hd => exact .fires hd
    | closed hd hs _ hw => exact .closed hd hs (by simp) hw
  have hstart : ∀ b : Session, b.deadline = c.deadline → b.socket = c.socket → b.read = .done →
      b.startWrite.Expired := by
    intro b hbd hbs hbr
    cases h with
    | fires hd => exact .fires (hbd.trans hd)
    | closed hd hs _ _ =>
      refine .closed (hbd.trans hd) (hbs.trans hs) ?_ ?_
      · show b.read ≠ .pending
        simp [hbr]
      · show (if b.socket.isConnected then _ else _ : Op Unit) ≠ .pending
        rw [hbs, hs]
        simp [Socket.isConnected]
  refine ⟨fun c' q he => ?_, fun x q _ => hdone⟩
  rcases onRead_cases env { c with read := .done } result hs with
    ⟨-, h'⟩ | ⟨-, -, h'⟩ | ⟨-, -, -, h'⟩ | ⟨-, -, remote, r, q', -, -, h'⟩
  · cases he.symm.trans h'
    exact hdone
  · cases he.symm.trans h'
    exact hstart _ rfl rfl rfl
  · cases he.symm.trans h'
  · cases he.symm.trans h'
    exact hstart _ rfl rfl rfl

/-- The handler of the write comes too late to cancel the deadline. -/
lemma Expired.onWrite (h : c.Expired) : ({ c with write := .done } : Session).onWrite.Expired := by
  cases h with
  | fires hd =>
    refine .fires ?_
    show c.deadline.cancel = _
    rw [hd]
    rfl
  | closed hd hs hr _ =>
    refine .closed ?_ hs hr (by simp [Session.onWrite])
    show c.deadline.cancel = _
    rw [hd]
    rfl

/-- The handler of the deadline closes the socket, which cancels what is pending on it. -/
lemma Expired.onDeadline (h : c.Expired) {result : Option Unit} (hr : c.deadline = .ready result) :
    (({ c with deadline := .done } : Session).onDeadline result).Expired := by
  cases h with
  | fires hd =>
    cases hr.symm.trans hd
    exact .closed rfl rfl (cancel_ne_pending _) (cancel_ne_pending _)
  | closed hd _ _ _ => cases hr.symm.trans hd

lemma expired_kept {env : Env W} : Kept env Expired fun _ => False where
  step h he := h.step he
  readSome h he := h.readSome he
  onRead h _ hs := ⟨(h.onRead env hs).1, fun x q he => .inl ((h.onRead env hs).2 x q he)⟩
  onWrite h _ := h.onWrite
  onDeadline h hr := h.onDeadline hr

/-- When no handler of it can be run, an expired session is closed and does nothing any more. -/
lemma Expired.over (h : c.Expired) (hq : c.runnable = false) :
    c.socket = .closed ∧ c.outstanding = false := by
  simp only [runnable, Bool.or_eq_false_iff] at hq
  obtain ⟨⟨⟨hread, hwrite⟩, hdeadline⟩, -⟩ := hq
  have hover : ∀ op : Op Unit, op ≠ .pending → op.isReady = false → op.outstanding = false := by
    intro op hp hr
    cases op with
    | idle => rfl
    | pending => exact absurd rfl hp
    | ready result => cases hr
    | done => rfl
  cases h with
  | fires hd =>
    rw [hd] at hdeadline
    cases hdeadline
  | closed hd hs hr hw =>
    refine ⟨hs, ?_⟩
    rw [outstanding, hover _ hr hread, hover _ hw hwrite, hd]
    rfl

end Session

namespace System

/-- No client stays for ever. In every run of the endpoint, when a tick ends at any time after the
    deadline of a session has expired, its socket is closed and no operation of it is outstanding,
    whatever the session was doing when it expired and whatever happened since. -/
theorem expired_over (env : Env W) {p : Plugin W} (hp : p.handler.Registered)
    {pre suf : List (Event W)} {i : Nat} {t : System W}
    (hr : run (step env) (initial p) (pre ++ .network i .expire :: (suf ++ [.pollReturn])) = some t) :
    ∃ c, t.sessions[i]? = some c ∧ c.socket = .closed ∧ c.outstanding = false := by
  obtain ⟨u, hu, hr⟩ := run_append_some.1 hr
  obtain ⟨v, hv, hr⟩ := (run_cons_some _).1 hr
  obtain ⟨w, hw, ht⟩ := run_concat_some.1 hr
  have hreg := ((initial_refines hp).of_run hu).registered
  have hreg' : v.plugin.handler.Registered := (step_settings env hreg hv).registered hreg
  have hexpired : v.Has i Session.Expired := by
    cases step_moves hv with
    | network hc hstep =>
      obtain ⟨op, hop, rfl⟩ := Option.map_eq_some_iff.1 hstep
      obtain ⟨-, rfl⟩ := Op.complete_eq_some.1 hop
      exact ⟨_, List.getElem?_set_self (List.getElem?_eq_some_iff.1 hc).1, .fires rfl⟩
  have hkept := run_keeps Session.expired_kept hreg' hw hexpired
  obtain ⟨c, hc, h⟩ := hkept.resolve_right fun ⟨_, _, _, _, hx⟩ => hx
  obtain ⟨hsessions, hrunnable⟩ := pollReturn_runnable ht
  exact ⟨c, (congrArg (·[i]?) hsessions).trans hc, h.over (hrunnable i c hc)⟩

/-- A client connects and sends nothing. -/
def silent : List (Event Demo.Game) := [
  .command .gameModeInit, .accepted (some ⟨Demo.remote, 0⟩), .command .processTick, .runAccept .waits,
  .pollReturn]

/-- What is run in the tick after its deadline. -/
def disconnecting : List (Event Demo.Game) := [
  .command .processTick, .runDeadline 0, .runRead 0]

/-- The client is disconnected. -/
theorem expired_over_silent :
    ∃ t c, run (step Demo.env) (initial (Demo.plugin {}))
        (silent ++ .network 0 .expire :: (disconnecting ++ [.pollReturn])) = some t ∧
      t.sessions[0]? = some c ∧ c.socket = .closed ∧ c.outstanding = false := by
  have hr : (run (step Demo.env) (initial (Demo.plugin {}))
      (silent ++ .network 0 .expire :: (disconnecting ++ [.pollReturn]))).isSome = true := by
    decide +kernel
  obtain ⟨t, hr⟩ := Option.isSome_iff_exists.1 hr
  obtain ⟨c, hc, h⟩ := expired_over Demo.env ⟨rfl, rfl⟩ hr
  exact ⟨t, c, hr, hc, h⟩

end System
end SampApi

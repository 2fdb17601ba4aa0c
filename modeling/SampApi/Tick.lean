import Mathlib.Algebra.BigOperators.Intervals
import SampApi.Demo
import SampApi.Endpoint
import SampApi.Lib.Transition

/-!
# One tick

`ProcessTick` runs `io_service::poll`, which runs handlers until none is ready. The handlers of
sessions use up bytes and operations, of which there are finitely many. But the handler of the accept
starts the next accept at once, whatever became of the last one: a tick ends exactly if more accepts
wait for a client than clients come (`tick_ends_iff`).
-/

namespace SampApi
open Lib

variable {W : Type}

/-! ## Ticks -/

/-- A tick: the system while it polls, the number of accepts started so far, and what is still to
    come: the clients that complete an accept that waits, and the bytes. -/
structure Tick (W : Type) where
  system : System W
  accepts : Nat := 0
  connecting : Nat
  arriving : Nat

/-- The bytes that have come with a client. -/
def broughtBytes : Option Connection → Nat
  | some c => c.bytes
  | none => 0

/-- The tick after a waiting accept was completed. -/
def Tick.completed (t : Tick W) (result : Option Connection) : Tick W :=
  { t with
    system := { t.system with accept := .ready result }
    connecting := t.connecting - 1
    arriving := t.arriving - broughtBytes result }

/-- The tick after the handler of the accept was run. -/
def Tick.onAccept (env : Env W) (accepting : Nat → Accepting) (t : Tick W)
    (result : Option Connection) : Tick W :=
  { t with
    system := t.system.onAccept env result (accepting t.accepts)
    accepts := t.accepts + 1 }

/-- What an event of a tick does besides leading to the state `s` of the system; `none` if it is no
    event of a tick. `accepting` says what becomes of the accepts that are started. -/
def Tick.record (accepting : Nat → Accepting) (t : Tick W) (s : System W) :
    Event W → Option (Tick W)
  | .runAccept next =>
    if next = accepting t.accepts then some { t with system := s, accepts := t.accepts + 1 } else none
  | .network _ (.received n) =>
    if 0 < n ∧ n ≤ t.arriving then some { t with system := s, arriving := t.arriving - n } else none
  | .accepted result =>
    if 0 < t.connecting ∧ broughtBytes result ≤ t.arriving then
      some { t with
        system := s
        connecting := t.connecting - 1
        arriving := t.arriving - broughtBytes result }
    else none
  | .command _ => none
  | .pollReturn => none
  | _ => some { t with system := s }

/-- What happens during a tick: handlers are run, and the network and the timers act. -/
def Tick.step (env : Env W) (accepting : Nat → Accepting) (t : Tick W) (e : Event W) :
    Option (Tick W) := do
  let s ← t.system.step env e
  t.record accepting s e

lemma Tick.step_eq_some {env : Env W} {accepting : Nat → Accepting} {t u : Tick W} {e : Event W} :
    t.step env accepting e = some u ↔
      ∃ s, System.Moves env t.system e s ∧ t.record accepting s e = some u := by
  constructor
  · intro h
    obtain ⟨s, hs, hu⟩ := Option.bind_eq_some_iff.1 h
    exact ⟨s, System.step_moves hs, hu⟩
  · intro h
    obtain ⟨s, hs, hu⟩ := h
    exact Option.bind_eq_some_iff.2 ⟨s, hs.step, hu⟩

/-- The event is that a handler is run. -/
def Event.isHandler : Event W → Bool
  | .runAccept _ => true
  | .readSome _ _ _ => true
  | .runRead _ => true
  | .runWrite _ => true
  | .runDeadline _ => true
  | _ => false

/-- The tick ends: only so many things happen in it, and as long as it polls it can run a handler or
    return because no handler is ready. -/
def TickEnds (env : Env W) (accepting : Nat → Accepting) (connecting arriving : Nat)
    (s : System W) : Prop :=
  ∃ N, ∀ es t, run (Tick.step env accepting) { system := s, connecting, arriving } es = some t →
    es.length ≤ N ∧ (t.system.polling = true → t.system.quiescent = true ∨
      ∃ e u, e.isHandler = true ∧ Tick.step env accepting t e = some u)

/-! ## Work -/

/-- How much an operation has before it: `n` once its handler is ready, one more before that. -/
def Op.work {ρ : Type} (n : Nat) : Op ρ → Nat
  | idle => 0
  | pending => n + 1
  | ready _ => n
  | done => 0

@[simp] lemma Op.work_idle {ρ : Type} (n : Nat) : (idle : Op ρ).work n = 0 := rfl

@[simp] lemma Op.work_pending {ρ : Type} (n : Nat) : (pending : Op ρ).work n = n + 1 := rfl

@[simp] lemma Op.work_ready {ρ : Type} (n : Nat) (result : Option ρ) :
    (ready result).work n = n := rfl

@[simp] lemma Op.work_done {ρ : Type} (n : Nat) : (done : Op ρ).work n = 0 := rfl

lemma Op.work_cancel {ρ : Type} (n : Nat) (op : Op ρ) : op.cancel.work n ≤ op.work n := by
  cases op with
  | pending => exact Nat.le_succ n
  | idle => exact le_rfl
  | ready result => exact le_rfl
  | done => exact le_rfl

lemma Op.work_complete {ρ : Type} (n : Nat) {op op' : Op ρ} {result : Option ρ}
    (h : op.complete result = some op') : op'.work n < op.work n := by
  obtain ⟨rfl, rfl⟩ := Op.complete_eq_some.1 h
  exact Nat.lt_succ_self n

/-- A client can reset its connection once. -/
def Socket.work : Socket → Nat
  | connected _ => 1
  | reset => 0
  | closed => 0

@[simp] lemma Socket.work_closed : closed.work = 0 := rfl

@[simp] lemma Socket.work_reset : reset.work = 0 := rfl

lemma Socket.work_of_isConnected {socket : Socket} (h : socket.isConnected = true) :
    socket.work = 1 := by
  cases socket with
  | connected remote => rfl
  | reset => cases h
  | closed => cases h

/-- How much a session has before it. The handler of its read may start a write, so it counts for
    more than the others. -/
def Session.work (c : Session) : Nat :=
  c.unread + c.socket.work + c.read.work 3 + c.write.work 1 + c.deadline.work 1

/-- What an accept that has completed has before it: its handler, and the session that it starts. -/
def acceptWork : Op Connection → Nat
  | .ready (some c) => c.bytes + 8
  | .ready none => 1
  | _ => 0

/-- How much a tick has before it, if it starts `m` accepts. What is still to come counts for more
    than what it becomes. -/
def Tick.work (accepting : Nat → Accepting) (m : Nat) (t : Tick W) : Nat :=
  (t.system.sessions.map Session.work).sum + acceptWork t.system.accept
    + ∑ j ∈ Finset.Ico t.accepts m, acceptWork (accepting j).op
    + 9 * t.connecting + 2 * t.arriving

/-- Whether an accept waits, as a number. -/
def Op.waiting {ρ : Type} : Op ρ → Nat
  | idle => 0
  | pending => 1
  | ready _ => 0
  | done => 0

/-- How many accepts of a tick wait for a client, up to the accept number `m`. -/
def Tick.waiting (accepting : Nat → Accepting) (m : Nat) (t : Tick W) : Nat :=
  t.system.accept.waiting + ∑ j ∈ Finset.Ico t.accepts m, (accepting j).op.waiting

lemma sum_map_set {l : List Session} {i : Nat} {c : Session} (h : l[i]? = some c) (c' : Session) :
    ((l.set i c').map Session.work).sum + c.work = (l.map Session.work).sum + c'.work := by
  induction l generalizing i with
  | nil => cases h
  | cons d l ih =>
    cases i with
    | zero =>
      cases h
      simp only [List.set_cons_zero, List.map_cons, List.sum_cons]
      omega
    | succ i =>
      have hl := ih (i := i) h
      simp only [List.set_cons_succ, List.map_cons, List.sum_cons]
      omega

namespace Session

lemma close_work (c : Session) : c.close.work ≤ c.work := by
  have hr := Op.work_cancel 3 c.read
  have hw := Op.work_cancel 1 c.write
  simp only [close, work, Socket.work_closed]
  omega

/-- The network and the timer complete operations; only bytes that arrive are new. -/
lemma step_work {c c' : Session} {e : Event} (h : c.step e = some c') :
    match e with
    | .received n => c'.work = c.work + n
    | _ => c'.work < c.work := by
  cases e with
  | received n =>
    obtain ⟨-, h⟩ := Option.ite_none_right_eq_some.1 h
    cases h
    show _ = _
    simp only [work]
    omega
  | peerReset =>
    obtain ⟨hc, h⟩ := Option.ite_none_right_eq_some.1 h
    cases h
    have hr := Op.work_cancel 3 c.read
    have hw := Op.work_cancel 1 c.write
    show _ < _
    simp only [work, Socket.work_reset, Socket.work_of_isConnected hc]
    omega
  | readFailed =>
    obtain ⟨op, hop, rfl⟩ := Option.map_eq_some_iff.1 h
    have hr := Op.work_complete 3 hop
    show _ < _
    simp only [work]
    omega
  | written result =>
    obtain ⟨op, hop, rfl⟩ := Option.map_eq_some_iff.1 h
    have hw := Op.work_complete 1 hop
    show _ < _
    simp only [work]
    omega
  | expire =>
    obtain ⟨op, hop, rfl⟩ := Option.map_eq_some_iff.1 h
    have hd := Op.work_complete 1 hop
    show _ < _
    simp only [work]
    omega

lemma readSome_work {c c' : Session} {n : Nat} {parsed : Parsed}
    (h : c.readSome n parsed = some c') : c'.work < c.work := by
  obtain ⟨⟨hread, hn, hle⟩, h⟩ := Option.ite_none_right_eq_some.1 h
  cases parsed with
  | more =>
    cases h
    simp only [work, hread, Op.work_pending]
    omega
  | bad =>
    cases h
    simp only [work, hread, Op.work_pending, Op.work_ready]
    omega
  | complete request =>
    cases h
    simp only [work, hread, Op.work_pending, Op.work_ready]
    omega

lemma onWrite_work {c : Session} {result : Option Unit} (h : c.write = .ready result) :
    ({ c with write := .done } : Session).onWrite.work < c.work := by
  have hd := Op.work_cancel 1 c.deadline
  simp only [onWrite, work, h, Op.work_ready, Op.work_done]
  omega

lemma onDeadline_work {c : Session} {result : Option Unit} (h : c.deadline = .ready result) :
    (({ c with deadline := .done } : Session).onDeadline result).work < c.work := by
  have hlt : ({ c with deadline := .done } : Session).work < c.work := by
    simp only [work, h, Op.work_ready, Op.work_done]
    exact Nat.lt_succ_self _
  cases result with
  | none => exact hlt
  | some _ => exact lt_of_le_of_lt (close_work _) hlt

lemma createResponse_work {env : Env W} {c c' : Session} {s t : Plugin W}
    (h : createResponse env c s = (.ok c', t)) : c'.work = c.work := by
  rw [createResponse] at h
  obtain ⟨ip, s₁, -, h⟩ := Prog.bind_eq_ok.1 h
  obtain ⟨r, s₂, -, h⟩ := Prog.bind_eq_ok.1 h
  cases h
  rfl

lemma startWrite_work (c : Session) : c.startWrite.work ≤ c.work + 2 := by
  have hw : c.startWrite.write.work 1 ≤ 2 := by
    rw [startWrite]
    split
    · exact le_rfl
    · exact Nat.le_succ 1
  show c.unread + c.socket.work + c.read.work 3 + c.startWrite.write.work 1 + c.deadline.work 1 ≤ _
  rw [work]
  omega

lemma processRequest_work {env : Env W} {c c' : Session} {s t : Plugin W} :
    processRequest env c s = (.ok c', t) → c'.work ≤ c.work + 2 := by
  have hcreate : ∀ {d : Session}, d.work = c.work →
      (createResponse env d >>= fun d' => (pure d'.startWrite : Act W Session)) s = (.ok c', t) →
      c'.work ≤ c.work + 2 := by
    intro d hd h
    obtain ⟨d', s₁, hd', h⟩ := Prog.bind_eq_ok.1 h
    cases h
    rw [← hd, ← createResponse_work hd']
    exact startWrite_work d'
  rw [processRequest]
  cases c.request.method with
  | get => exact hcreate rfl
  | post => exact hcreate rfl
  | other name =>
    intro h
    cases h
    exact startWrite_work { c with response := _ }

lemma done_work {c : Session} {result : Option Unit} (h : c.read = .ready result) :
    ({ c with read := .done } : Session).work + 3 = c.work := by
  simp only [work, h, Op.work_ready, Op.work_done]
  omega

/-- The handler of a read starts a write at most. -/
lemma onRead_work {env : Env W} {c c' : Session} {result : Option Unit} {s t : Plugin W}
    (h : onRead env c result s = (.ok c', t)) : c'.work ≤ c.work + 2 := by
  cases result with
  | none =>
    cases h
    exact Nat.le_add_right _ _
  | some _ => exact processRequest_work h

end Session

/-! ## Steps -/

/-- More accepts wait, up to the accept number `m`, than clients come. -/
def Tick.Limited (accepting : Nat → Accepting) (m : Nat) (t : Tick W) : Prop :=
  t.system.polling = true → t.system.accept.outstanding = true → t.connecting < t.waiting accepting m

lemma Accepting.op_outstanding (next : Accepting) : next.op.outstanding = true := by
  cases next <;> rfl

section Steps
variable {env : Env W} {accepting : Nat → Accepting} {m : Nat} {t u : Tick W}

/-- When an accept is run, the next one takes its place. -/
lemma Tick.waiting_onAccept {result : Option Connection} (hr : t.system.accept = .ready result)
    (hm : t.accepts < m) :
    (t.onAccept env accepting result).waiting accepting m = t.waiting accepting m := by
  have hsum : ∑ j ∈ Finset.Ico t.accepts m, (accepting j).op.waiting =
      (accepting t.accepts).op.waiting +
        ∑ j ∈ Finset.Ico (t.accepts + 1) m, (accepting j).op.waiting :=
    Finset.sum_eq_sum_Ico_succ_bot hm _
  have hready : t.system.accept.waiting = 0 := by rw [hr]; rfl
  have hnext : (t.onAccept env accepting result).system.accept = (accepting t.accepts).op := by
    cases result <;> rfl
  rw [Tick.waiting, Tick.waiting, hnext, hready, hsum, Nat.zero_add]
  rfl

/-- An event of one session, by which the session has less before it. -/
lemma work_set {i : Nat} {c c' : Session} {s : System W} (hi : t.system.sessions[i]? = some c)
    (hc : c'.work < c.work) (hsessions : s.sessions = t.system.sessions.set i c')
    (haccept : s.accept = t.system.accept) (hpolling : s.polling = true → t.system.polling = true)
    (ht : t.Limited accepting m) :
    Tick.Limited accepting m { t with system := s } ∧
      Tick.work accepting m { t with system := s } < t.work accepting m := by
  constructor
  · intro hp ho
    have hlt := ht (hpolling hp) (haccept ▸ ho)
    rw [Tick.waiting] at hlt ⊢
    rw [haccept]
    exact hlt
  · have hsum := sum_map_set hi c'
    simp only [Tick.work, hsessions, haccept]
    omega

/-- A client comes while an accept waits. -/
lemma Tick.completed_work (ht : t.Limited accepting m) (ha : t.system.accept = .pending)
    {result : Option Connection} (hc : 0 < t.connecting) (hb : broughtBytes result ≤ t.arriving) :
    (t.completed result).Limited accepting m ∧
      (t.completed result).work accepting m < t.work accepting m := by
  constructor
  · intro hp _
    have hlt := ht hp (by rw [ha]; rfl)
    simp only [Tick.completed, Tick.waiting, ha, Op.waiting] at hlt ⊢
    omega
  · have hwork : acceptWork (.ready result) ≤ broughtBytes result + 8 := by
      cases result with
      | none => exact Nat.le_add_left 1 7
      | some c => exact le_rfl
    have hpending : acceptWork t.system.accept = 0 := by rw [ha]; rfl
    simp only [Tick.completed, Tick.work]
    omega

/-- An accept that is run is followed by the next one, which leaves less to happen. -/
lemma Tick.onAccept_work (ht : t.Limited accepting m) (hp : t.system.polling = true)
    {result : Option Connection} (hr : t.system.accept = .ready result) :
    (t.onAccept env accepting result).Limited accepting m ∧
      (t.onAccept env accepting result).work accepting m < t.work accepting m := by
  have hlt := ht hp (by rw [hr]; rfl)
  -- one of the accepts to come waits, so there is a next one
  have hm : t.accepts < m := by
    by_contra hno
    rw [Tick.waiting, hr, Finset.Ico_eq_empty_of_le (Nat.le_of_not_lt hno)] at hlt
    exact Nat.not_lt_zero _ hlt
  have hsum : ∑ j ∈ Finset.Ico t.accepts m, acceptWork (accepting j).op =
      acceptWork (accepting t.accepts).op +
        ∑ j ∈ Finset.Ico (t.accepts + 1) m, acceptWork (accepting j).op :=
    Finset.sum_eq_sum_Ico_succ_bot hm _
  constructor
  · intro _ _
    rw [Tick.waiting_onAccept hr hm]
    exact hlt
  · cases result with
    | none =>
      have hwork : acceptWork t.system.accept = 1 := by rw [hr]; rfl
      simp only [Tick.onAccept, Tick.work, System.onAccept, System.listen]
      omega
    | some c =>
      have hwork : acceptWork t.system.accept = c.bytes + 8 := by rw [hr]; rfl
      have hstart : ∀ time, (Session.start
          { socket := .connected c.remote, unread := c.bytes, init_time := time }).work =
            c.bytes + 7 := fun _ => rfl
      simp only [Tick.onAccept, Tick.work, System.onAccept, System.listen, System.start,
        List.map_append, List.map_cons, List.map_nil, List.sum_append, List.sum_cons, List.sum_nil,
        hstart]
      omega

/-- Everything that happens in a tick leaves less to happen. -/
theorem Tick.step_work {e : Event W} (h : t.step env accepting e = some u)
    (ht : t.Limited accepting m) :
    u.Limited accepting m ∧ u.work accepting m < t.work accepting m := by
  obtain ⟨s, hs, hu⟩ := Tick.step_eq_some.1 h
  cases hs with
  | command _ => cases hu
  | pollReturn _ _ => cases hu
  | accepted ha =>
    obtain ⟨⟨hc, hb⟩, hu⟩ := Option.ite_none_right_eq_some.1 hu
    cases hu
    exact Tick.completed_work ht ha hc hb
  | @network i e c c' hc hc' =>
    have hwork := Session.step_work hc'
    cases e with
    | received n =>
      obtain ⟨⟨hn, hle⟩, hu⟩ := Option.ite_none_right_eq_some.1 hu
      cases hu
      refine ⟨ht, ?_⟩
      have hw : c'.work = c.work + n := hwork
      have hsum := sum_map_set hc c'
      -- a byte counts for more before it has arrived
      simp only [Tick.work]
      omega
    | peerReset =>
      cases hu
      exact work_set hc hwork rfl rfl id ht
    | readFailed =>
      cases hu
      exact work_set hc hwork rfl rfl id ht
    | written result =>
      cases hu
      exact work_set hc hwork rfl rfl id ht
    | expire =>
      cases hu
      exact work_set hc hwork rfl rfl id ht
  | runAccept hp hr =>
    obtain ⟨rfl, hu⟩ := Option.ite_none_right_eq_some.1 hu
    cases hu
    exact Tick.onAccept_work ht hp hr
  | readSome _ hc hc' =>
    cases hu
    exact work_set hc (Session.readSome_work hc') rfl rfl id ht
  | runRead _ hc hr hx =>
    cases hu
    have hdone := Session.done_work hr
    have hle := Session.onRead_work hx
    exact work_set hc (by omega) rfl rfl id ht
  | throws _ hc hr _ =>
    cases hu
    have hdone := Session.done_work hr
    -- an exception ends the polling
    exact work_set hc (by omega) rfl rfl nofun ht
  | runWrite _ hc hw =>
    cases hu
    exact work_set hc (Session.onWrite_work hw) rfl rfl id ht
  | runDeadline _ hc hd =>
    cases hu
    exact work_set hc (Session.onDeadline_work hd) rfl rfl id ht

lemma Tick.step_runAccept (hp : t.system.polling = true) {result : Option Connection}
    (ha : t.system.accept = .ready result) :
    t.step env accepting (.runAccept (accepting t.accepts)) =
      some (t.onAccept env accepting result) :=
  Tick.step_eq_some.2 ⟨_, .runAccept hp ha, if_pos rfl⟩

/-- A session that has a handler to run can run it. -/
lemma Tick.step_session (env : Env W) (accepting : Nat → Accepting) (hp : t.system.polling = true)
    {i : Nat} {c : Session} (hi : t.system.sessions[i]? = some c) (hc : c.runnable = true) :
    ∃ e u, e.isHandler = true ∧ t.step env accepting e = some u := by
  simp only [Session.runnable, Bool.or_eq_true, Bool.and_eq_true, decide_eq_true_iff,
    Op.isReady_iff] at hc
  rcases hc with ((⟨result, hr⟩ | ⟨result, hw⟩) | ⟨result, hd⟩) | ⟨hr, hn⟩
  · generalize hx : Session.onRead env { c with read := .done } result t.system.plugin = x
    obtain ⟨x | c', plugin⟩ := x
    · exact ⟨.runRead i, _, rfl, Tick.step_eq_some.2 ⟨_, .throws hp hi hr hx, rfl⟩⟩
    · exact ⟨.runRead i, _, rfl, Tick.step_eq_some.2 ⟨_, .runRead hp hi hr hx, rfl⟩⟩
  · exact ⟨.runWrite i, _, rfl, Tick.step_eq_some.2 ⟨_, .runWrite hp hi hw, rfl⟩⟩
  · exact ⟨.runDeadline i, _, rfl, Tick.step_eq_some.2 ⟨_, .runDeadline hp hi hd, rfl⟩⟩
  · -- the read can take one byte
    have hread : c.readSome 1 .more = some { c with unread := c.unread - 1 } :=
      if_pos ⟨hr, Nat.one_pos, hn⟩
    exact ⟨.readSome i 1 .more, _, rfl, Tick.step_eq_some.2 ⟨_, .readSome hp hi hread, rfl⟩⟩

/-- While the tick polls, it can run a handler, or no handler is ready and it returns. -/
theorem Tick.step_progress (env : Env W) (accepting : Nat → Accepting) (t : Tick W)
    (hp : t.system.polling = true) : t.system.quiescent = true ∨
      ∃ e u, e.isHandler = true ∧ t.step env accepting e = some u := by
  cases hq : t.system.quiescent with
  | true => exact .inl rfl
  | false =>
    apply Or.inr
    rw [System.quiescent, Bool.and_eq_false_iff, Bool.not_eq_false'] at hq
    rcases hq with ha | hq
    · obtain ⟨result, ha⟩ := Op.isReady_iff.1 ha
      exact ⟨_, _, rfl, Tick.step_runAccept hp ha⟩
    · obtain ⟨c, hc, hrun⟩ := List.all_eq_false.1 hq
      obtain ⟨i, hi⟩ := List.mem_iff_getElem?.1 hc
      exact Tick.step_session env accepting hp hi (by simpa using hrun)

/-- The tick polls, and however many accepts it starts, no more of them wait than clients come. -/
structure Tick.Unlimited (accepting : Nat → Accepting) (t : Tick W) : Prop where
  polling : t.system.polling = true
  outstanding : t.system.accept.outstanding = true
  waiting : ∀ m, t.waiting accepting m ≤ t.connecting

/-- Then something can happen, after which that is still so. -/
theorem Tick.step_unlimited (env : Env W) (h : t.Unlimited accepting) :
    ∃ e u, t.step env accepting e = some u ∧ u.Unlimited accepting := by
  cases ha : t.system.accept with
  | idle =>
    have ho := h.outstanding
    rw [ha] at ho
    cases ho
  | done =>
    have ho := h.outstanding
    rw [ha] at ho
    cases ho
  | pending =>
    -- a client comes, and has left again
    have hc : 0 < t.connecting := by
      have hle := h.waiting 0
      rw [Tick.waiting, ha] at hle
      exact lt_of_lt_of_le (Nat.lt_add_right _ Nat.one_pos) hle
    refine ⟨.accepted none, t.completed none, ?_, h.polling, rfl, fun m => ?_⟩
    · exact Tick.step_eq_some.2 ⟨_, .accepted ha, if_pos ⟨hc, Nat.zero_le _⟩⟩
    · have hle := h.waiting m
      simp only [Tick.completed, Tick.waiting, ha, Op.waiting] at hle ⊢
      omega
  | ready result =>
    refine ⟨_, _, Tick.step_runAccept h.polling ha, ?_, ?_, fun m => ?_⟩
    · cases result <;> exact h.polling
    · cases result <;> exact Accepting.op_outstanding _
    · -- up to a later number there wait as many as before
      have hlater : t.accepts < t.accepts + 1 + m := by omega
      have hkept : (t.onAccept env accepting result).waiting accepting (t.accepts + 1 + m) =
          t.waiting accepting (t.accepts + 1 + m) := Tick.waiting_onAccept ha hlater
      refine le_trans (Nat.add_le_add_left ?_ _) (hkept.trans_le (h.waiting _))
      exact Finset.sum_le_sum_of_subset (Finset.Ico_subset_Ico_right (Nat.le_add_left _ _))

end Steps

/-! ## The end of a tick -/

/-- A tick ends exactly if there is no game mode, or the endpoint does not accept clients, or more
    accepts wait for a client than clients come: of the accept that is there when the tick starts and
    the ones that are started in it. -/
theorem tick_ends_iff (env : Env W) (accepting : Nat → Accepting) (connecting arriving : Nat)
    (s : System W) :
    TickEnds env accepting connecting arriving (s.command env .processTick) ↔
      s.ready = false ∨ s.accept.outstanding = false ∨
        ∃ m, connecting < s.accept.waiting + ∑ k ∈ Finset.range m, (accepting k).op.waiting := by
  have hwaiting : ∀ m, Tick.waiting accepting m
      { system := s.command env .processTick, connecting, arriving } =
        s.accept.waiting + ∑ k ∈ Finset.range m, (accepting k).op.waiting := by
    intro m
    rw [Finset.range_eq_Ico]
    rfl
  constructor
  · intro h
    obtain ⟨N, h⟩ := h
    by_contra hno
    simp only [not_or, Bool.not_eq_false, not_exists, not_lt] at hno
    obtain ⟨hready, haccept, hle⟩ := hno
    have hunlimited : Tick.Unlimited accepting
        { system := s.command env .processTick, connecting, arriving } :=
      ⟨hready, haccept, fun m => (hwaiting m).trans_le (hle m)⟩
    obtain ⟨es, u, hrun, hlen⟩ :=
      exists_run_length (fun _ => Tick.step_unlimited env) (N + 1) hunlimited
    have hlast := (h es u hrun).1
    omega
  · intro h
    obtain ⟨m, hlimited⟩ : ∃ m, Tick.Limited accepting m
        { system := s.command env .processTick, connecting, arriving } := by
      rcases h with h | h | ⟨m, h⟩
      · exact ⟨0, fun hp => absurd (h.symm.trans hp) Bool.false_ne_true⟩
      · exact ⟨0, fun _ ho => absurd (h.symm.trans ho) Bool.false_ne_true⟩
      · exact ⟨m, fun _ _ => h.trans_eq (hwaiting m).symm⟩
    refine ⟨Tick.work accepting m { system := s.command env .processTick, connecting, arriving },
      fun es t hrun => ⟨?_, t.step_progress env accepting⟩⟩
    have hle := run_length_add_le (fun s e t h hs => Tick.step_work h hs) hrun hlimited
    omega

/-- An endpoint without a session whose accept has just failed. -/
def Demo.exhausted : System Demo.Game where
  plugin := Demo.plugin {}
  ready := true
  accept := .ready none

/-- When the accept has failed and every next one fails at once, the tick does not end, although there
    is no session, and neither a client nor a byte comes. -/
theorem tick_endless :
    ¬ TickEnds Demo.env (fun _ => .fails) 0 0 (Demo.exhausted.command Demo.env .processTick) := by
  intro h
  obtain ⟨N, h⟩ := h
  have hunlimited : Tick.Unlimited (fun _ => .fails)
      { system := Demo.exhausted.command Demo.env .processTick, connecting := 0, arriving := 0 } := by
    refine ⟨rfl, rfl, fun m => ?_⟩
    show 0 + ∑ j ∈ Finset.Ico 0 m, 0 ≤ 0
    rw [Finset.sum_const_zero]
    exact le_rfl
  obtain ⟨es, u, hrun, hlen⟩ :=
    exists_run_length (fun _ => Tick.step_unlimited Demo.env) (N + 1) hunlimited
  have hle := (h es u hrun).1
  omega

end SampApi

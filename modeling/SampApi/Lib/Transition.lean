import Mathlib.Data.List.Forall2
import Mathlib.Tactic

/-!
# Transition systems

Systems given by a step function, their runs and the rules that carry a fact about one step over to
runs of any length.

For a partial step function `step : σ → ε → Option σ` (`none` when the event cannot happen in the
state): `run`, the states a run `Visits`, the steps it `Takes`, the invariant rule `run_invariant`,
the rule `run_or_takes` for what only some steps do not keep,
the rule `run_history` for invariants that mention the events so far,
the rule `run_simulation` for a second system that follows the runs of the first one,
the rules `run_length_add_le` and `exists_run_length` for runs that end and runs that need not, the rule
`trace_once` for what is put out in one step of a run only, and the rule `visits_iff_takes`, which
turns "a step leads from good to good exactly under a condition" into "a run stays good exactly if all
its steps meet the condition".

For a total step function with output: `outputs`, the rule `after_collect` for lists that every step
only adds to, and the unwinding rule `outputs_purge`, by which
events that leave no trace in the state can be deleted from a run.
-/

namespace SampApi.Lib

section Partial
variable {σ ε : Type} (step : σ → ε → Option σ)

/-- Runs the events of a list in order. -/
def run : σ → List ε → Option σ
  | s, [] => some s
  | s, e :: es => (step s e).bind fun t => run t es

lemma run_cons (s : σ) (e : ε) (es : List ε) :
    run step s (e :: es) = (step s e).bind fun t => run step t es := rfl

/-- The run behind a first step is the run from the state this step leads to. -/
lemma run_of_step {s t : σ} {e : ε} (h : step s e = some t) (es : List ε) :
    run step s (e :: es) = run step t es := by
  rw [run_cons, h]
  rfl

/-- A run that takes a first step goes on as a run from the state this step leads to. -/
lemma run_cons_some {s u : σ} {e : ε} {es : List ε} :
    run step s (e :: es) = some u ↔ ∃ t, step s e = some t ∧ run step t es = some u := by
  rw [run_cons, Option.bind_eq_some_iff]

/-- The run of `es` from `s` passes through the state `u`, or starts or ends there. -/
def Visits (s : σ) (es : List ε) (u : σ) : Prop :=
  ∃ pre suf, es = pre ++ suf ∧ run step s pre = some u

/-- The run of `es` from `s` takes the event `e` in the state `u`. -/
def Takes (s : σ) (es : List ε) (u : σ) (e : ε) : Prop :=
  ∃ pre suf, es = pre ++ e :: suf ∧ run step s pre = some u

variable {step}

lemma Visits.start (s : σ) (es : List ε) : Visits step s es s := ⟨[], es, rfl, rfl⟩

lemma Visits.last {s t : σ} {es : List ε} (h : run step s es = some t) : Visits step s es t :=
  ⟨es, [], (List.append_nil es).symm, h⟩

/-- A run visits its first state and what the rest of it visits. -/
lemma visits_cons {s t u : σ} {e : ε} {es : List ε} (h : step s e = some t) :
    Visits step s (e :: es) u ↔ u = s ∨ Visits step t es u := by
  constructor
  · intro h
    obtain ⟨pre, suf, eq, hr⟩ := h
    cases pre with
    | nil => exact .inl (Option.some.inj hr).symm
    | cons f pre =>
      obtain ⟨rfl, rfl⟩ := List.cons.inj eq
      exact .inr ⟨pre, suf, rfl, (run_of_step step h pre).symm.trans hr⟩
  · intro h
    rcases h with rfl | ⟨pre, suf, rfl, hr⟩
    · exact .start _ _
    · exact ⟨e :: pre, suf, rfl, (run_of_step step h pre).trans hr⟩

/-- A run takes its first step and what the rest of it takes. -/
lemma takes_cons {s t u : σ} {e f : ε} {es : List ε} (h : step s e = some t) :
    Takes step s (e :: es) u f ↔ (u = s ∧ f = e) ∨ Takes step t es u f := by
  constructor
  · intro h
    obtain ⟨pre, suf, eq, hr⟩ := h
    cases pre with
    | nil => exact .inl ⟨(Option.some.inj hr).symm, (List.cons.inj eq).1.symm⟩
    | cons g pre =>
      obtain ⟨rfl, rfl⟩ := List.cons.inj eq
      exact .inr ⟨pre, suf, rfl, (run_of_step step h pre).symm.trans hr⟩
  · intro h
    rcases h with ⟨rfl, rfl⟩ | ⟨pre, suf, rfl, hr⟩
    · exact ⟨[], es, rfl, rfl⟩
    · exact ⟨e :: pre, suf, rfl, (run_of_step step h pre).trans hr⟩

/-- What every step keeps, every run keeps. -/
lemma run_invariant {I : σ → Prop} (hI : ∀ s e t, step s e = some t → I s → I t)
    {s t : σ} {es : List ε} (hr : run step s es = some t) (h : I s) : I t := by
  induction es generalizing s with
  | nil => exact Option.some.inj hr ▸ h
  | cons e es ih =>
    obtain ⟨u, hu, hr⟩ := (run_cons_some step).1 hr
    exact ih hr (hI s e u hu h)

/-- What every step keeps but those of a kind, a run keeps or takes a step of that kind. -/
lemma run_or_takes {I : σ → Prop} {X : σ → ε → Prop}
    (hI : ∀ s e t, step s e = some t → I s → I t ∨ X s e)
    {s t : σ} {es : List ε} (hr : run step s es = some t) (h : I s) :
    I t ∨ ∃ u e, Takes step s es u e ∧ X u e := by
  induction es generalizing s with
  | nil => exact .inl (Option.some.inj hr ▸ h)
  | cons e es ih =>
    obtain ⟨u, hu, hr⟩ := (run_cons_some step).1 hr
    rcases hI s e u hu h with h | hx
    · rcases ih hr h with h | ⟨v, f, ht, hx⟩
      · exact .inl h
      · exact .inr ⟨v, f, (takes_cons hu).2 (.inr ht), hx⟩
    · exact .inr ⟨s, e, (takes_cons hu).2 (.inl ⟨rfl, rfl⟩), hx⟩

/-- A run of two lists is a run of the first and then one of the second. -/
lemma run_append_some {s u : σ} {es fs : List ε} :
    run step s (es ++ fs) = some u ↔ ∃ t, run step s es = some t ∧ run step t fs = some u := by
  induction es generalizing s with
  | nil =>
    constructor
    · intro h
      exact ⟨s, rfl, h⟩
    · intro h
      obtain ⟨t, ht, hu⟩ := h
      cases ht
      exact hu
  | cons e es ih =>
    rw [List.cons_append, run_cons_some]
    simp only [run_cons_some, ih]
    constructor
    · intro h
      obtain ⟨v, hv, t, ht, hu⟩ := h
      exact ⟨t, ⟨v, hv, ht⟩, hu⟩
    · intro h
      obtain ⟨t, ⟨v, hv, ht⟩, hu⟩ := h
      exact ⟨v, hv, t, ht, hu⟩

/-- A run of a list with one more event goes on with a step. -/
lemma run_concat_some {s u : σ} {e : ε} {es : List ε} :
    run step s (es ++ [e]) = some u ↔ ∃ t, run step s es = some t ∧ step t e = some u := by
  rw [run_append_some]
  refine exists_congr fun t => and_congr_right fun _ => ?_
  exact iff_of_eq (congrArg (· = some u) (Option.bind_fun_some (step t e)))

/-- What is true of the state at the start with no history, and what every step keeps of the state
    with the history that led to it, is true after every run. -/
lemma run_history {I : List ε → σ → Prop} {s t : σ} (h0 : I [] s)
    (hI : ∀ es u e v, I es u → step u e = some v → I (es ++ [e]) v) {es : List ε}
    (hr : run step s es = some t) : I es t := by
  induction es using List.reverseRecOn generalizing t with
  | nil => exact Option.some.inj hr ▸ h0
  | append_singleton es e ih =>
    obtain ⟨u, hu, ht⟩ := run_concat_some.1 hr
    exact hI es u e t (ih hu) ht

/-- A measure that every step decreases bounds the length of the runs. -/
lemma run_length_add_le {I : σ → Prop} {μ : σ → Nat}
    (hμ : ∀ s e t, step s e = some t → I s → I t ∧ μ t < μ s)
    {s t : σ} {es : List ε} (hr : run step s es = some t) (h : I s) : es.length + μ t ≤ μ s := by
  induction es generalizing s with
  | nil =>
    cases hr
    exact Nat.le_of_eq (Nat.zero_add _)
  | cons e es ih =>
    obtain ⟨u, hu, hr⟩ := (run_cons_some step).1 hr
    obtain ⟨hI, hlt⟩ := hμ s e u hu h
    have hle := ih hr hI
    rw [List.length_cons]
    omega

/-- From a state that a step can always be taken from there are runs of every length. -/
lemma exists_run_length {I : σ → Prop} (hI : ∀ s, I s → ∃ e t, step s e = some t ∧ I t) (n : Nat)
    {s : σ} (h : I s) : ∃ es t, run step s es = some t ∧ es.length = n := by
  induction n generalizing s with
  | zero => exact ⟨[], s, rfl, rfl⟩
  | succ n ih =>
    obtain ⟨e, u, hu, hI⟩ := hI s h
    obtain ⟨es, t, hr, hlen⟩ := ih hI
    exact ⟨e :: es, t, (run_cons_some step).2 ⟨u, hu, hr⟩, congrArg Nat.succ hlen⟩

/-- Let the steps from a good state lead to a good state exactly under a condition on the state and
    the event. Then a run from a good state visits good states only, exactly if all the steps it
    takes meet the condition. `I` is an invariant the step fact may use. -/
theorem visits_iff_takes {I P : σ → Prop} {C : σ → ε → Prop}
    (hI : ∀ s e t, step s e = some t → I s → I t)
    (hP : ∀ s e t, step s e = some t → I s → P s → (P t ↔ C s e))
    {s t : σ} {es : List ε} (hr : run step s es = some t) (hi : I s) (hp : P s) :
    (∀ u, Visits step s es u → P u) ↔ ∀ u e, Takes step s es u e → C u e := by
  induction es generalizing s with
  | nil =>
    constructor
    · rintro - u e ⟨pre, suf, eq, -⟩
      exact absurd eq (by simp)
    · rintro - u ⟨pre, suf, eq, hr⟩
      obtain ⟨rfl, -⟩ := List.append_eq_nil_iff.1 eq.symm
      exact Option.some.inj hr ▸ hp
  | cons e es ih =>
    obtain ⟨v, hv, hr⟩ := (run_cons_some step).1 hr
    have hiv := hI s e v hv hi
    constructor
    · intro h u f ht
      have hpv : P v := h v ((visits_cons hv).2 (.inr (.start v es)))
      rcases (takes_cons hv).1 ht with ⟨rfl, rfl⟩ | ht
      · exact (hP u f v hv hi hp).1 hpv
      · exact (ih hr hiv hpv).1 (fun w hw => h w ((visits_cons hv).2 (.inr hw))) u f ht
    · intro h u hu
      have hpv : P v := (hP s e v hv hi hp).2 (h s e ((takes_cons hv).2 (.inl ⟨rfl, rfl⟩)))
      rcases (visits_cons hv).1 hu with rfl | hu
      · exact hp
      · exact (ih hr hiv hpv).2 (fun w f hw => h w f ((takes_cons hv).2 (.inr hw))) u hu

/-- Let a second system follow the steps of the first one, from related states to related states, where
    the steps meet a condition. Then it follows the runs that take such steps only. -/
theorem run_simulation {τ : Type} {step' : τ → ε → Option τ} {R : σ → τ → Prop} {C : σ → ε → Prop}
    (hR : ∀ s t e s', R s t → C s e → step s e = some s' → ∃ t', step' t e = some t' ∧ R s' t')
    {s s' : σ} {t : τ} {es : List ε} (h : R s t) (hC : ∀ u e, Takes step s es u e → C u e)
    (hr : run step s es = some s') : ∃ t', run step' t es = some t' ∧ R s' t' := by
  induction es generalizing s t with
  | nil =>
    cases hr
    exact ⟨t, rfl, h⟩
  | cons e es ih =>
    obtain ⟨u, hu, hr⟩ := (run_cons_some step).1 hr
    obtain ⟨v, hv, huv⟩ := hR s t e u h (hC s e ((takes_cons hu).2 (.inl ⟨rfl, rfl⟩))) hu
    obtain ⟨t', ht', h'⟩ := ih huv (fun w f hw => hC w f ((takes_cons hu).2 (.inr hw))) hr
    exact ⟨t', (run_cons_some step').2 ⟨v, hv, ht'⟩, h'⟩

/-- What the steps of a run put out. -/
def trace {ω : Type} (step : σ → ε → Option σ) (out : σ → ε → List ω) : σ → List ε → List ω
  | _, [] => []
  | s, e :: es =>
    match step s e with
    | some t => out s e ++ trace step out t es
    | none => []

/-- Let states be fresh or not. If a step from a fresh state puts out something that `P` holds of, but
    nothing if it leads to a fresh state, and a step from any other state puts out nothing and leads to
    no fresh state, then a run from a fresh state puts out something that `P` holds of. -/
theorem trace_once {ω : Type} {out : σ → ε → List ω} {I F : σ → Prop} {P : List ω → Prop}
    (hnil : P []) (hI : ∀ s e t, step s e = some t → I s → I t)
    (hF : ∀ s e t, step s e = some t → I s → F s → P (out s e) ∧ (F t → out s e = []))
    (hN : ∀ s e t, step s e = some t → I s → ¬ F s → out s e = [] ∧ ¬ F t)
    {s : σ} (hi : I s) (es : List ε) :
    (F s → P (trace step out s es)) ∧ (¬ F s → trace step out s es = []) := by
  induction es generalizing s with
  | nil => exact ⟨fun _ => hnil, fun _ => rfl⟩
  | cons e es ih =>
    rw [trace]
    cases hst : step s e with
    | none => exact ⟨fun _ => hnil, fun _ => rfl⟩
    | some t =>
      obtain ⟨ihF, ihN⟩ := ih (hI s e t hst hi)
      constructor
      · intro hf
        obtain ⟨hP, hout⟩ := hF s e t hst hi hf
        by_cases hft : F t
        · show P (out s e ++ _)
          rw [hout hft]
          exact ihF hft
        · show P (_ ++ trace step out t es)
          rw [ihN hft, List.append_nil]
          exact hP
      · intro hf
        obtain ⟨hout, hft⟩ := hN s e t hst hi hf
        show out s e ++ trace step out t es = []
        rw [hout, ihN hft]
        rfl

end Partial

section Output
variable {σ ε ω : Type} (step : σ → ε → σ × ω)

/-- The events of a run, each with the output of its step. -/
def outputs : σ → List ε → List (ε × ω)
  | _, [] => []
  | s, e :: es => (e, (step s e).2) :: outputs (step s e).1 es

/-- The state after a run. -/
def after (s : σ) (es : List ε) : σ := es.foldl (fun t e => (step t e).1) s

@[simp] lemma after_nil (s : σ) : after step s [] = s := rfl

@[simp] lemma after_cons (s : σ) (e : ε) (es : List ε) :
    after step s (e :: es) = after step (step s e).1 es := rfl

lemma after_append (s : σ) (es fs : List ε) :
    after step s (es ++ fs) = after step (after step s es) fs := List.foldl_append

lemma outputs_append (s : σ) (es fs : List ε) :
    outputs step s (es ++ fs) = outputs step s es ++ outputs step (after step s es) fs := by
  induction es generalizing s with
  | nil => rfl
  | cons e es ih =>
    rw [List.cons_append, outputs, ih]
    rfl

/-- What a run puts out with an event was put out by a step that took it. -/
lemma mem_outputs {s : σ} {es : List ε} {e : ε} {o : ω} :
    (e, o) ∈ outputs step s es ↔
      ∃ pre suf, es = pre ++ e :: suf ∧ o = (step (after step s pre) e).2 := by
  induction es generalizing s with
  | nil =>
    refine iff_of_false (List.not_mem_nil) ?_
    intro h
    obtain ⟨pre, suf, eq, -⟩ := h
    cases pre <;> cases eq
  | cons f es ih =>
    rw [outputs, List.mem_cons, ih]
    constructor
    · intro h
      rcases h with h | ⟨pre, suf, rfl, ho⟩
      · cases h
        exact ⟨[], es, rfl, rfl⟩
      · exact ⟨f :: pre, suf, rfl, ho⟩
    · intro h
      obtain ⟨pre, suf, eq, ho⟩ := h
      cases pre with
      | nil =>
        cases eq
        exact .inl (by rw [ho]; rfl)
      | cons g pre =>
        cases eq
        exact .inr ⟨pre, suf, rfl, ho⟩

variable {step}

/-- What every step keeps holds after every run. -/
lemma after_invariant {I : σ → Prop} (hI : ∀ s e, I s → I (step s e).1)
    {s : σ} (h : I s) (es : List ε) : I (after step s es) := by
  induction es generalizing s with
  | nil => exact h
  | cons e es ih => exact ih (hI s e h)

/-- What the steps of a run add to a list, one after the other. -/
def collect {α : Type} (step : σ → ε → σ × ω) (g : σ → ε → List α) : σ → List ε → List α
  | _, [] => []
  | s, e :: es => g s e ++ collect step g (step s e).1 es

/-- A list in the state that every step only adds to has, after a run, what its steps add. -/
theorem after_collect {α : Type} {I : σ → Prop} {f : σ → List α} {g : σ → ε → List α}
    (hI : ∀ s e, I s → I (step s e).1) (h : ∀ s e, I s → f (step s e).1 = f s ++ g s e)
    {s : σ} (hi : I s) (es : List ε) : f (after step s es) = f s ++ collect step g s es := by
  induction es generalizing s with
  | nil => exact (List.append_nil _).symm
  | cons e es ih =>
    rw [after_cons, ih (hI s e hi), h s e hi, List.append_assoc]
    rfl

/-- Unwinding. Let `R` relate states that differ at most in what hidden events may change: a hidden
    event leads from a state related to `t` to a state related to `t`, and two events related by `E`
    that are not hidden lead from related states to related states with outputs related by `O`. Then
    deleting the hidden events from a run, and replacing each other event by a related one, yields
    related outputs. `I` and `J` are invariants of the two runs. -/
theorem outputs_purge {I J : σ → Prop} {R : σ → σ → Prop} {E : ε → ε → Prop} {O : ω → ω → Prop}
    {hidden : ε → Bool}
    (hI : ∀ s e, I s → I (step s e).1) (hJ : ∀ s e, J s → J (step s e).1)
    (hhide : ∀ s t e, I s → J t → R s t → hidden e = true → R (step s e).1 t)
    (hstep : ∀ s t e f, I s → J t → R s t → hidden e = false → E e f →
      R (step s e).1 (step t f).1 ∧ O (step s e).2 (step t f).2)
    {s t : σ} {es fs : List ε} (hi : I s) (hj : J t) (hr : R s t)
    (hE : List.Forall₂ E (es.filter fun e => !hidden e) fs) :
    List.Forall₂ (fun a b => E a.1 b.1 ∧ O a.2 b.2)
      ((outputs step s es).filter fun a => !hidden a.1) (outputs step t fs) := by
  induction es generalizing s t fs with
  | nil =>
    cases hE
    exact .nil
  | cons e es ih =>
    cases hh : hidden e with
    | true =>
      simp only [List.filter_cons, hh, Bool.not_true, Bool.false_eq_true, if_false] at hE
      simp only [outputs, List.filter_cons, hh, Bool.not_true, Bool.false_eq_true, if_false]
      exact ih (hI s e hi) hj (hhide s t e hi hj hr hh) hE
    | false =>
      simp only [List.filter_cons, hh, Bool.not_false, if_true] at hE
      simp only [outputs, List.filter_cons, hh, Bool.not_false, if_true]
      cases hE with
      | @cons _ f _ fs ef hE =>
        obtain ⟨hr', o⟩ := hstep s t e f hi hj hr hh ef
        exact .cons ⟨ef, o⟩ (ih (hI s e hi) (hJ t f hj) hr' hE)

end Output
end SampApi.Lib

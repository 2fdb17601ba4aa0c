import SampApi.Lib.Transition

/-!
# Lanes

Events that lie on lanes: two events that share no lane are independent of each other. `run_eq_of_lanes`
is the rule for a partial step function: if independent events that can both happen can happen in
either order, with the same result, then a run depends on the order of its events on each lane only.
-/

namespace SampApi.Lib

section Lanes
variable {ε ι : Type} (on : ι → ε → Bool)

/-- No lane has both events. -/
def Apart (e f : ε) : Prop := ∀ l, on l e = true → on l f = false

/-- The lists have the same events on each lane, in the same order. -/
def SameLanes (es fs : List ε) : Prop := ∀ l, es.filter (on l) = fs.filter (on l)

variable {on}

/-- A list without events on the lanes of `e` has none that shares a lane with it. -/
lemma apart_of_filter {e : ε} {es : List ε} (h : ∀ l, on l e = true → es.filter (on l) = []) :
    ∀ f ∈ es, Apart on e f := by
  intro f hf l he
  exact Bool.eq_false_of_not_eq_true (List.filter_eq_nil_iff.1 (h l he) f hf)

lemma SameLanes.nil {es : List ε} (hon : ∀ e, ∃ l, on l e = true) (h : SameLanes on [] es) :
    es = [] := by
  cases es with
  | nil => rfl
  | cons e es =>
    obtain ⟨l, hl⟩ := hon e
    have hl' := h l
    rw [List.filter_cons_of_pos hl] at hl'
    cases hl'

/-- The first event of a list stands behind independent events only in a list with the same lanes. -/
lemma SameLanes.cons {e : ε} {es fs : List ε} (hon : ∃ l, on l e = true)
    (h : SameLanes on (e :: es) fs) :
    ∃ pre suf, fs = pre ++ e :: suf ∧ (∀ f ∈ pre, Apart on e f) ∧ SameLanes on es (pre ++ suf) := by
  obtain ⟨l₀, hl₀⟩ := hon
  have h₀ := h l₀
  rw [List.filter_cons_of_pos hl₀] at h₀
  obtain ⟨pre, suf, rfl, hpre, -, -⟩ := List.filter_eq_cons_iff.1 h₀.symm
  -- an event before `e` on a lane of `e` would be `e`, which is not on the lane `l₀` there
  have hnone : ∀ l, on l e = true → pre.filter (on l) = [] := by
    intro l hl
    have hl' := h l
    rw [List.filter_cons_of_pos hl, List.filter_append] at hl'
    cases hf : pre.filter (on l) with
    | nil => rfl
    | cons f rest =>
      rw [hf] at hl'
      obtain rfl : e = f := (List.cons.inj hl').1
      have hmem : e ∈ pre.filter (on l) := hf ▸ List.mem_cons_self
      exact absurd hl₀ (hpre e (List.mem_filter.1 hmem).1)
  refine ⟨pre, suf, rfl, apart_of_filter hnone, fun l => ?_⟩
  have hl' := h l
  cases hl : on l e with
  | true =>
    rw [List.filter_append, List.filter_cons_of_pos hl, List.filter_cons_of_pos hl, hnone l hl] at hl'
    rw [List.filter_append, hnone l hl]
    exact (List.cons.inj hl').2
  | false =>
    have hl : ¬ on l e = true := by rw [hl]; exact Bool.false_ne_true
    rw [List.filter_append, List.filter_cons_of_neg hl, List.filter_cons_of_neg hl] at hl'
    rw [List.filter_append]
    exact hl'

end Lanes

section Run
variable {σ ε ι : Type} {step : σ → ε → Option σ} {on : ι → ε → Bool}

/-- Independent events that can both happen can happen in either order, with the same result. -/
def Diamond (step : σ → ε → Option σ) (on : ι → ε → Bool) : Prop :=
  ∀ s e f u v, Apart on e f → step s e = some u → step s f = some v →
    ∃ w, step u f = some w ∧ step v e = some w

/-- An event that can happen at once can be taken out of a run in which it comes behind events that
    are independent of it. -/
lemma run_take (hd : Diamond step on) {e : ε} {pre suf : List ε} (hpre : ∀ f ∈ pre, Apart on e f)
    {s u t : σ} (hu : step s e = some u) (hr : run step s (pre ++ e :: suf) = some t) :
    run step u (pre ++ suf) = some t := by
  induction pre generalizing s u with
  | nil =>
    obtain ⟨u', hu', hr⟩ := (run_cons_some step).1 hr
    cases hu.symm.trans hu'
    exact hr
  | cons f pre ih =>
    obtain ⟨v, hv, hr⟩ := (run_cons_some step).1 hr
    obtain ⟨w, huw, hvw⟩ := hd s e f u v (hpre f List.mem_cons_self) hu hv
    have hw := ih (fun g hg => hpre g (List.mem_cons_of_mem f hg)) hvw hr
    exact (run_cons_some step).2 ⟨w, huw, hw⟩

/-- Runs with the same lanes end alike. -/
theorem run_eq_of_lanes (hd : Diamond step on) (hon : ∀ e, ∃ l, on l e = true) {s t t' : σ}
    {es fs : List ε} (h : SameLanes on es fs) (hr : run step s es = some t)
    (hr' : run step s fs = some t') : t = t' := by
  induction es generalizing s fs with
  | nil =>
    obtain rfl := h.nil hon
    exact Option.some.inj (hr.symm.trans hr')
  | cons e es ih =>
    obtain ⟨u, hu, hr⟩ := (run_cons_some step).1 hr
    obtain ⟨pre, suf, rfl, hpre, hlanes⟩ := h.cons (hon e)
    exact ih hlanes hr (run_take hd hpre hu hr')

/-- What every step of one system does, a step of the other does as well; so do runs. -/
lemma run_mono {step' : σ → ε → Option σ}
    (h : ∀ s e t, step s e = some t → step' s e = some t) {s t : σ} {es : List ε}
    (hr : run step s es = some t) : run step' s es = some t := by
  induction es generalizing s with
  | nil => exact hr
  | cons e es ih =>
    obtain ⟨u, hu, hr⟩ := (run_cons_some step).1 hr
    exact (run_cons_some step').2 ⟨u, h s e u hu, ih hr⟩

end Run
end SampApi.Lib

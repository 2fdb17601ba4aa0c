import Mathlib.Tactic

/-!
# Programs with state and exceptions

`Prog σ ε α` is a computation over a state `σ` that returns an `α` or throws an `ε`. As in a
language with mutable objects, the state reached at a throw is kept, and whoever catches the
exception goes on from that state.

Two kinds of rules follow the monad structure. `Frame R c` says that every run of `c`, also one that
throws, relates the state before to the state after by `R`; `Rel R Q c d` says that two programs
started in related states behave alike: both return, with results related by `Q`, or both throw the
same exception, and the states they leave are related again.
-/

namespace SampApi.Lib

/-- A computation over a state `σ` that may throw; the state reached at the throw is kept. -/
def Prog (σ ε α : Type) : Type := σ → Except ε α × σ

namespace Prog
variable {σ τ ε α β γ δ : Type}

/-- The program that returns a value and does nothing. -/
protected def pure (a : α) : Prog σ ε α := fun s => (.ok a, s)

/-- Sequencing: the second program starts where the first one stopped, unless that threw. -/
protected def bind (c : Prog σ ε α) (k : α → Prog σ ε β) : Prog σ ε β := fun s =>
  match c s with
  | (.ok a, s') => k a s'
  | (.error e, s') => (.error e, s')

instance : Monad (Prog σ ε) where
  pure := Prog.pure
  bind := Prog.bind

/-- The program that throws. -/
def raise (e : ε) : Prog σ ε α := fun s => (.error e, s)

/-- The program that reads a part of the state. -/
def gets (f : σ → α) : Prog σ ε α := fun s => (.ok (f s), s)

/-- The program that updates the state. -/
def update (f : σ → σ) : Prog σ ε Unit := fun s => (.ok (), f s)

/-- A computation without effects on the state, as a program. -/
def lift (x : Except ε α) : Prog σ ε α := fun s => (x, s)

/-- A program over the first component of the state. -/
def onFst (c : Prog σ ε α) : Prog (σ × τ) ε α := fun s => ((c s.1).1, (c s.1).2, s.2)

/-- A program over the state of the caller and a local variable, run on that variable's initial
    value; the caller gets the variable back next to the result, also when the program throws. -/
def withLocal (c : Prog (σ × τ) ε α) (x : τ) : Prog σ ε (Except ε α × τ) := fun s =>
  (.ok ((c (s, x)).1, (c (s, x)).2.2), (c (s, x)).2.1)

/-! ## Runs of the basic programs -/

@[simp] lemma pure_run (a : α) (s : σ) : (pure a : Prog σ ε α) s = (.ok a, s) := rfl

@[simp] lemma gets_run (f : σ → α) (s : σ) : (gets f : Prog σ ε α) s = (.ok (f s), s) := rfl

@[simp] lemma lift_run (x : Except ε α) (s : σ) : (lift x : Prog σ ε α) s = (x, s) := rfl

@[simp] lemma onFst_run (c : Prog σ ε α) (s : σ × τ) :
    onFst c s = ((c s.1).1, (c s.1).2, s.2) := rfl

lemma bind_run (c : Prog σ ε α) (k : α → Prog σ ε β) (s : σ) :
    (c >>= k) s = match c s with
      | (.ok a, s') => k a s'
      | (.error e, s') => (.error e, s') := rfl

/-- A program that returned hands its result and its state to the next one. -/
lemma bind_ok {c : Prog σ ε α} {k : α → Prog σ ε β} {s s' : σ} {a : α}
    (h : c s = (.ok a, s')) : (c >>= k) s = k a s' := by
  rw [bind_run, h]

/-- A program that threw cuts off the next one. -/
lemma bind_error {c : Prog σ ε α} {k : α → Prog σ ε β} {s s' : σ} {e : ε}
    (h : c s = (.error e, s')) : (c >>= k) s = (.error e, s') := by
  rw [bind_run, h]

/-- A sequence that returned is two programs that returned. -/
lemma bind_eq_ok {c : Prog σ ε α} {k : α → Prog σ ε β} {s u : σ} {b : β} :
    (c >>= k) s = (.ok b, u) ↔ ∃ a t, c s = (.ok a, t) ∧ k a t = (.ok b, u) := by
  constructor
  · intro h
    rw [bind_run] at h
    generalize hx : c s = x at h
    obtain ⟨e | a, t⟩ := x
    · cases h
    · exact ⟨a, t, rfl, h⟩
  · intro h
    obtain ⟨a, t, h, h'⟩ := h
    rw [bind_ok h]
    exact h'

@[simp] lemma pure_bind_run (a : α) (k : α → Prog σ ε β) (s : σ) :
    ((pure a : Prog σ ε α) >>= k) s = k a s := rfl

@[simp] lemma gets_bind_run (f : σ → α) (k : α → Prog σ ε β) (s : σ) :
    ((gets f : Prog σ ε α) >>= k) s = k (f s) s := rfl

@[simp] lemma update_bind_run (f : σ → σ) (k : Unit → Prog σ ε β) (s : σ) :
    ((update f : Prog σ ε Unit) >>= k) s = k () (f s) := rfl

@[simp] lemma withLocal_bind_run (c : Prog (σ × τ) ε α) (x : τ)
    (k : Except ε α × τ → Prog σ ε β) (s : σ) :
    (withLocal c x >>= k) s = k ((c (s, x)).1, (c (s, x)).2.2) (c (s, x)).2.1 := rfl

/-- Sequencing is associative, run by run. -/
@[simp] lemma bind_assoc_run (c : Prog σ ε α) (k : α → Prog σ ε β) (l : β → Prog σ ε γ) (s : σ) :
    ((c >>= k) >>= l) s = (c >>= fun a => k a >>= l) s := by
  simp only [bind_run]
  rcases c s with ⟨_ | _, _⟩ <;> rfl

/-! ## Frames -/

/-- Every run of `c` relates the state before it to the state after it by `R`. -/
def Frame (R : σ → σ → Prop) (c : Prog σ ε α) : Prop := ∀ s, R s (c s).2

namespace Frame
variable {R : σ → σ → Prop}

lemma pure (refl : ∀ s, R s s) (a : α) : Frame R (pure a : Prog σ ε α) := refl

lemma bind (trans : ∀ {s t u}, R s t → R t u → R s u) {c : Prog σ ε α} {k : α → Prog σ ε β}
    (hc : Frame R c) (hk : ∀ a, Frame R (k a)) : Frame R (c >>= k) := by
  intro s
  have h := hc s
  rw [bind_run]
  generalize c s = x at h ⊢
  obtain ⟨_ | a, s'⟩ := x
  · exact h
  · exact trans h (hk a s')

end Frame

/-! ## Two runs -/

/-- Two outcomes agree: both are results related by `Q`, or both the same exception. -/
def Agree (Q : α → β → Prop) : Except ε α → Except ε β → Prop
  | .ok a, .ok b => Q a b
  | .error e, .error f => e = f
  | _, _ => False

@[simp] lemma agree_ok {Q : α → β → Prop} {a : α} {b : β} :
    Agree (ε := ε) Q (.ok a) (.ok b) ↔ Q a b := Iff.rfl

lemma agree_refl {Q : α → α → Prop} (refl : ∀ a, Q a a) (x : Except ε α) : Agree Q x x := by
  cases x with
  | ok a => exact refl a
  | error e => exact rfl

lemma agree_eq {x y : Except ε α} (h : Agree Eq x y) : x = y := by
  cases x <;> cases y
  · exact congrArg Except.error h
  · exact absurd h id
  · exact absurd h id
  · exact congrArg Except.ok h

/-- Started in related states, `c` and `d` behave alike and leave related states. -/
def Rel (R : σ → τ → Prop) (Q : α → β → Prop) (c : Prog σ ε α) (d : Prog τ ε β) : Prop :=
  ∀ s t, R s t → Agree Q (c s).1 (d t).1 ∧ R (c s).2 (d t).2

namespace Rel
variable {R : σ → τ → Prop}

lemma pure {Q : α → β → Prop} {a : α} {b : β} (h : Q a b) :
    Rel R Q (pure a : Prog σ ε α) (pure b : Prog τ ε β) := fun _ _ r => ⟨h, r⟩

lemma lift {Q : α → β → Prop} {x : Except ε α} {y : Except ε β} (h : Agree Q x y) :
    Rel R Q (lift x : Prog σ ε α) (lift y) := fun _ _ r => ⟨h, r⟩

lemma bind {Q : α → β → Prop} {P : γ → δ → Prop} {c : Prog σ ε α} {d : Prog τ ε β}
    {k : α → Prog σ ε γ} {l : β → Prog τ ε δ}
    (hc : Rel R Q c d) (hk : ∀ a b, Q a b → Rel R P (k a) (l b)) :
    Rel R P (c >>= k) (d >>= l) := by
  intro s t r
  obtain ⟨q, r'⟩ := hc s t r
  rw [bind_run, bind_run]
  generalize c s = x at q r' ⊢
  generalize d t = y at q r' ⊢
  obtain ⟨_ | a, s'⟩ := x <;> obtain ⟨_ | b, t'⟩ := y
  · exact ⟨q, r'⟩
  · exact absurd q id
  · exact absurd q id
  · exact hk a b q s' t' r'

/-- With a second component next to it, the state of a program changes in the same way. -/
lemma onFst (c : Prog σ ε α) :
    Rel (fun (s : σ × τ) t => s.1 = t) Eq (Prog.onFst c : Prog (σ × τ) ε α) c := by
  intro s t r
  subst r
  exact ⟨agree_refl (fun _ => rfl) _, rfl⟩

end Rel

/-! ## Built programs -/

/-- The programs built from some basic ones by sequencing. What the rules above prove of a program
    step by step, they prove once and for all of the programs built from basic ones. -/
inductive Built (B : ∀ {α : Type}, Prog σ ε α → Prop) : ∀ {α : Type}, Prog σ ε α → Prop where
  | basic {α : Type} {c : Prog σ ε α} : B c → Built B c
  | pure {α : Type} (a : α) : Built B (pure a : Prog σ ε α)
  | bind {α β : Type} {c : Prog σ ε α} {k : α → Prog σ ε β} :
    Built B c → (∀ a, Built B (k a)) → Built B (c >>= k)

namespace Built
variable {B : ∀ {α : Type}, Prog σ ε α → Prop} {c : Prog σ ε α}

lemma frame {R : σ → σ → Prop} (refl : ∀ s, R s s) (trans : ∀ {s t u}, R s t → R t u → R s u)
    (hB : ∀ {α : Type} {c : Prog σ ε α}, B c → Frame R c) (h : Built B c) : Frame R c := by
  induction h with
  | basic h => exact hB h
  | pure a => exact Frame.pure refl a
  | bind _ _ ihc ihk => exact Frame.bind (R := R) (fun h h' => trans h h') ihc ihk

lemma rel {R : σ → σ → Prop} (hB : ∀ {α : Type} {c : Prog σ ε α}, B c → Rel R Eq c c)
    (h : Built B c) : Rel R Eq c c := by
  induction h with
  | basic h => exact hB h
  | pure a => exact Rel.pure rfl
  | bind _ _ ihc ihk =>
    apply Rel.bind ihc
    rintro a b rfl
    exact ihk a

/-- If the basic programs throw exceptions in `E` only, then so do the built ones. -/
lemma throws {E : ε → Prop} (hB : ∀ {α : Type} {c : Prog σ ε α}, B c → ∀ s e, (c s).1 = .error e → E e)
    (h : Built B c) : ∀ s e, (c s).1 = .error e → E e := by
  induction h with
  | basic h => exact hB h
  | pure a =>
    intro s e he
    cases he
  | @bind α β c k _ _ ihc ihk =>
    intro s e he
    rw [bind_run] at he
    generalize hx : c s = x at he
    obtain ⟨f | a, s'⟩ := x
    · cases he
      exact ihc s e (by rw [hx])
    · exact ihk a s' e he

end Built

lemma onFst_pure (a : α) : (onFst (pure a) : Prog (σ × τ) ε α) = pure a := rfl

lemma onFst_bind (c : Prog σ ε α) (k : α → Prog σ ε β) :
    (onFst (c >>= k) : Prog (σ × τ) ε β) = onFst c >>= fun a => onFst (k a) := by
  funext s
  rw [bind_run, onFst_run, onFst_run, bind_run]
  rcases c s.1 with ⟨_ | _, _⟩ <;> rfl

/-- What is built over the first component of the state is built over the whole state. -/
lemma Built.onFst {B : ∀ {α : Type}, Prog σ ε α → Prop} {B' : ∀ {α : Type}, Prog (σ × τ) ε α → Prop}
    (hB : ∀ {α : Type} {c : Prog σ ε α}, B c → B' (onFst c : Prog (σ × τ) ε α)) {c : Prog σ ε α}
    (h : Built B c) : Built B' (Prog.onFst c : Prog (σ × τ) ε α) := by
  induction h with
  | basic h => exact .basic (hB h)
  | pure a => exact onFst_pure (σ := σ) (τ := τ) (ε := ε) a ▸ .pure a
  | bind _ _ ihc ihk => exact onFst_bind (σ := σ) (τ := τ) _ _ ▸ .bind ihc ihk

end Prog
end SampApi.Lib

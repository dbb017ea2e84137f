/-
  Pre- and postconditions for computations that keep their state when they fail.

  `Triple P x Q E`: from a state in `P`, the run of `x` ends in `Q`, which may speak of its value, or it
  fails in a state in `E`.  The rules follow the ways to put computations together; an invariant is a
  triple with the same assertion in front, behind and at an error.
-/
import HassSma.Lib.Fallible

namespace Fallible

variable {ε σ α β : Type}

/-- From `P` it ends in `Q`, or fails in `E`. -/
def Triple (P : σ → Prop) (x : EStateM ε σ α) (Q : α → σ → Prop) (E : σ → Prop) : Prop :=
  ∀ s, P s → match x.run s with
    | .ok a s' => Q a s'
    | .error _ s' => E s'

variable {P P' : σ → Prop} {E : σ → Prop}

theorem triple_pure {a : α} {Q : α → σ → Prop} (h : ∀ s, P s → Q a s) :
    Triple P (pure a : EStateM ε σ α) Q E := fun s hs => h s hs

theorem triple_throw (e : ε) {Q : α → σ → Prop} (h : ∀ s, P s → E s) :
    Triple P (throw e : EStateM ε σ α) Q E := fun s hs => h s hs

/-- The rule for `>>=`. -/
theorem Triple.bind {x : EStateM ε σ α} {f : α → EStateM ε σ β} {Q : α → σ → Prop} {R : β → σ → Prop}
    (hx : Triple P x Q E) (hf : ∀ a, Triple (Q a) (f a) R E) : Triple P (x >>= f) R E := by
  intro s hs
  have hfirst := hx s hs
  cases hrun : x.run s with
  | ok a s₁ =>
    rw [hrun] at hfirst
    rw [bind_of_ok hrun]
    exact hf a s₁ hfirst
  | error e s₁ =>
    rw [hrun] at hfirst
    rw [bind_of_error hrun]
    exact hfirst

/-- A weaker assertion behind, a stronger one in front. -/
theorem Triple.weaken {x : EStateM ε σ α} {Q Q' : α → σ → Prop} (h : Triple P x Q E)
    (hP : ∀ s, P' s → P s) (hQ : ∀ a s, Q a s → Q' a s) : Triple P' x Q' E := by
  intro s hs
  have hrun := h s (hP s hs)
  cases hx : x.run s with
  | ok a s₁ =>
    rw [hx] at hrun
    exact hQ a s₁ hrun
  | error e s₁ =>
    rw [hx] at hrun
    exact hrun

/-- One triple for each of the ways in which the assertion in front can hold. -/
theorem triple_exists {ι : Type} {P : ι → σ → Prop} {x : EStateM ε σ α} {Q : α → σ → Prop}
    (h : ∀ i, Triple (P i) x Q E) : Triple (fun s => ∃ i, P i s) x Q E :=
  fun s ⟨i, hs⟩ => h i s hs

/-- A fact in front may be used. -/
theorem triple_fact {p : Prop} {P : σ → Prop} {x : EStateM ε σ α} {Q : α → σ → Prop}
    (h : p → Triple P x Q E) : Triple (fun s => p ∧ P s) x Q E :=
  fun s ⟨hp, hs⟩ => h hp s hs

/-- What holds behind and at an error holds at the end. -/
theorem Triple.final {x : EStateM ε σ α} (h : Triple P x (fun _ => E) E) {s : σ} (hs : P s) :
    E (final (x.run s)) := by
  have hrun := h s hs
  cases hx : x.run s with
  | ok a s₁ =>
    rw [hx] at hrun
    exact hrun
  | error e s₁ =>
    rw [hx] at hrun
    exact hrun

/-- What a computation keeps, kept by an assertion. -/
theorem Keeps.triple {R : σ → σ → Prop} {x : EStateM ε σ α} (h : Keeps R x)
    (hP : ∀ {s t}, R s t → P s → P t) (hE : ∀ s, P s → E s) : Triple P x (fun _ => P) E := by
  intro s hs
  have hrun := h s
  cases hx : x.run s with
  | ok a s₁ =>
    rw [hx] at hrun
    exact hP hrun hs
  | error e s₁ =>
    rw [hx] at hrun
    exact hE s₁ (hP hrun hs)

/-- A fact about the values, besides the assertion behind. -/
theorem Triple.value {x : EStateM ε σ α} {Q : α → σ → Prop} {V : α → Prop} (h : Triple P x Q E)
    (hV : ∀ s a s', x.run s = .ok a s' → V a) : Triple P x (fun a s => V a ∧ Q a s) E := by
  intro s hs
  have hrun := h s hs
  cases hx : x.run s with
  | ok a s₁ =>
    rw [hx] at hrun
    exact ⟨hV s a s₁ hx, hrun⟩
  | error e s₁ =>
    rw [hx] at hrun
    exact hrun

end Fallible

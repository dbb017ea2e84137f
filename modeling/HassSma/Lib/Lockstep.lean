/-
  Two programs that go in step.

  A relation between the states of two surroundings is kept by a pair of programs, and both end with
  the same value (`Lockstep`).  It is the plain case of a simulation, one step for one step.  It
  passes through `>>=` and `attempt`, so for a pair of programs that differ in their surroundings alone
  it is enough to look at the questions they ask.

  `ended r s` is the run that ends with the result `r` in the state `s`; what a run comes to is stated
  with it where result and state are known apart.
-/
import HassSma.Lib.Fallible

namespace Fallible

variable {ε σ τ α β : Type}

/-- The run that ends with this result, in this state. -/
def ended (r : Except ε α) (s : σ) : EStateM.Result ε σ α :=
  match r with
  | .ok a => .ok a s
  | .error e => .error e s

@[simp] theorem value_ended (r : Except ε α) (s : σ) : value (ended r s) = r := by
  cases r <;> rfl

@[simp] theorem final_ended (r : Except ε α) (s : σ) : final (ended r s) = s := by
  cases r <;> rfl

/-- **In step**: from related states, the same value and related states. -/
def Lockstep (R : σ → τ → Prop) (x : EStateM ε σ α) (y : EStateM ε τ α) : Prop :=
  ∀ s t, R s t → value (x.run s) = value (y.run t) ∧ R (final (x.run s)) (final (y.run t))

variable {R : σ → τ → Prop}

theorem lockstep_pure (a : α) :
    Lockstep R (pure a : EStateM ε σ α) (pure a : EStateM ε τ α) := by
  intro s t h
  exact ⟨rfl, h⟩

theorem lockstep_throw (e : ε) :
    Lockstep R (throw e : EStateM ε σ α) (throw e : EStateM ε τ α) := by
  intro s t h
  exact ⟨rfl, h⟩

/-- The rule for `>>=`, for the results that the first part can have. -/
theorem Lockstep.bind_of {x : EStateM ε σ α} {y : EStateM ε τ α} {f : α → EStateM ε σ β}
    {g : α → EStateM ε τ β} {P : α → Prop} (hx : Lockstep R x y)
    (hP : ∀ s a s', x.run s = .ok a s' → P a) (hf : ∀ a, P a → Lockstep R (f a) (g a)) :
    Lockstep R (x >>= f) (y >>= g) := by
  intro s t h
  obtain ⟨hvalue, hfinal⟩ := hx s t h
  cases hrun : x.run s with
  | ok a s₁ =>
    cases hrun' : y.run t with
    | ok b t₁ =>
      rw [hrun, hrun'] at hvalue hfinal
      obtain rfl := Except.ok.inj hvalue
      rw [bind_of_ok hrun, bind_of_ok hrun']
      exact hf a (hP s a s₁ hrun) s₁ t₁ hfinal
    | error e t₁ =>
      rw [hrun, hrun'] at hvalue
      nomatch hvalue
  | error e s₁ =>
    cases hrun' : y.run t with
    | ok b t₁ =>
      rw [hrun, hrun'] at hvalue
      nomatch hvalue
    | error e' t₁ =>
      rw [hrun, hrun'] at hvalue hfinal
      rw [bind_of_error hrun, bind_of_error hrun']
      exact ⟨congrArg Except.error (Except.error.inj hvalue), hfinal⟩

theorem Lockstep.bind {x : EStateM ε σ α} {y : EStateM ε τ α} {f : α → EStateM ε σ β}
    {g : α → EStateM ε τ β} (hx : Lockstep R x y) (hf : ∀ a, Lockstep R (f a) (g a)) :
    Lockstep R (x >>= f) (y >>= g) :=
  hx.bind_of (fun _ _ _ _ => trivial) fun a _ => hf a

/-- A first step that only one of the two has, and that does not show. -/
theorem Lockstep.left {x : EStateM ε σ PUnit} {y : EStateM ε σ α} {z : EStateM ε τ α}
    (hx : ∀ s t, R s t → ∃ s', x.run s = .ok () s' ∧ R s' t) (hy : Lockstep R y z) :
    Lockstep R (do x; y) z := by
  intro s t h
  obtain ⟨s', hrun, h'⟩ := hx s t h
  rw [bind_of_ok hrun]
  exact hy s' t h'

/-- The states that are read are related, not equal. -/
theorem lockstep_get_bind {f : σ → EStateM ε σ β} {g : τ → EStateM ε τ β}
    (h : ∀ s t, R s t → Lockstep R (f s) (g t)) : Lockstep R (get >>= f) (get >>= g) := by
  intro s t hst
  exact h s t hst s t hst

theorem lockstep_modifyGet {f : σ → α × σ} {g : τ → α × τ}
    (h : ∀ s t, R s t → (f s).1 = (g t).1 ∧ R (f s).2 (g t).2) :
    Lockstep R (modifyGet f : EStateM ε σ α) (modifyGet g : EStateM ε τ α) := by
  intro s t hst
  obtain ⟨hvalue, hstate⟩ := h s t hst
  exact ⟨congrArg Except.ok hvalue, hstate⟩

theorem Lockstep.attempt {x : EStateM ε σ α} {y : EStateM ε τ α} (h : Lockstep R x y) :
    Lockstep R (attempt x) (attempt y) := by
  intro s t hst
  obtain ⟨hvalue, hstate⟩ := h s t hst
  exact ⟨congrArg Except.ok hvalue, hstate⟩

end Fallible

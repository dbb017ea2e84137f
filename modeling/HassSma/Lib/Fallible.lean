/-
  Computations that keep their state when they fail.

  `EStateM ε σ α` runs from a state and ends in a state, with a value or with an error; what was
  done before an error stays done.  Two tools on top of what core has:

  * `attempt x` runs `x` and hands its result over as a value, so that the caller goes on after an
    error from the state the error left (`match x.await { Ok(..) => .., Err(..) => .. }`);
  * `Keeps R x`: the states before and behind `x` are related by `R`, whatever the result.  For a
    preorder `R` it passes through `>>=` and `attempt`, so "nothing but this changes" is proved
    once for each primitive and once for each loop.

  A successful `>>=` is taken apart by `bind_eq_ok`.
-/
import Mathlib.Init

namespace Fallible

variable {ε σ α β : Type}

/-- The state behind a computation, whatever its result. -/
def final : EStateM.Result ε σ α → σ
  | .ok _ s => s
  | .error _ s => s

@[simp] theorem final_ok (a : α) (s : σ) :
    final (EStateM.Result.ok a s : EStateM.Result ε σ α) = s := rfl
@[simp] theorem final_error (e : ε) (s : σ) :
    final (EStateM.Result.error e s : EStateM.Result ε σ α) = s := rfl

/-- The result of a computation, without the state. -/
def value : EStateM.Result ε σ α → Except ε α
  | .ok a _ => .ok a
  | .error e _ => .error e

@[simp] theorem value_ok (a : α) (s : σ) :
    value (EStateM.Result.ok a s : EStateM.Result ε σ α) = .ok a := rfl
/-- Run `x`, hand over its result, and go on from the state it left. -/
def attempt (x : EStateM ε σ α) : EStateM ε σ (Except ε α) := fun s =>
  .ok (value (x.run s)) (final (x.run s))

@[simp] theorem run_attempt (x : EStateM ε σ α) (s : σ) :
    (attempt x).run s = .ok (value (x.run s)) (final (x.run s)) := rfl

/-- The result of a run without its value, and the state behind it. -/
def outcome (x : EStateM ε σ α) (s : σ) : Except ε Unit × σ :=
  ((value (x.run s)).map fun _ => (), final (x.run s))

/-! ## Taking a sequence apart -/

theorem bind_eq_ok {x : EStateM ε σ α} {f : α → EStateM ε σ β} {s s' : σ} {b : β} :
    (x >>= f).run s = .ok b s' ↔ ∃ a s₁, x.run s = .ok a s₁ ∧ (f a).run s₁ = .ok b s' := by
  rw [EStateM.run_bind]
  cases x.run s with
  | ok a s₁ =>
    constructor
    · intro h
      exact ⟨a, s₁, rfl, h⟩
    · rintro ⟨a', s', heq, h⟩
      obtain ⟨rfl, rfl⟩ := EStateM.Result.ok.inj heq
      exact h
  | error e s₁ =>
    constructor
    · intro h
      nomatch h
    · rintro ⟨a', s', heq, -⟩
      nomatch heq

theorem bind_of_ok {x : EStateM ε σ α} {s s₁ : σ} {a : α} (h : x.run s = .ok a s₁)
    (f : α → EStateM ε σ β) : (x >>= f).run s = (f a).run s₁ := by
  rw [EStateM.run_bind, h]

theorem bind_of_error {x : EStateM ε σ α} {s s₁ : σ} {e : ε} (h : x.run s = .error e s₁)
    (f : α → EStateM ε σ β) : (x >>= f).run s = .error e s₁ := by
  rw [EStateM.run_bind, h]

theorem modify_eq_ok {f : σ → σ} {s s' : σ} {u : PUnit} :
    (modify f : EStateM ε σ PUnit).run s = .ok u s' ↔ s' = f s := by
  constructor
  · intro h
    exact (EStateM.Result.ok.inj h).2.symm
  · rintro rfl
    rfl

theorem get_eq_ok {s s' a : σ} :
    (get : EStateM ε σ σ).run s = .ok a s' ↔ a = s ∧ s' = s := by
  constructor
  · intro h
    obtain ⟨rfl, rfl⟩ := EStateM.Result.ok.inj h
    exact ⟨rfl, rfl⟩
  · rintro ⟨rfl, rfl⟩
    rfl

/-! ## What a computation keeps -/

/-- The states before and behind `x` are related by `R`. -/
def Keeps (R : σ → σ → Prop) (x : EStateM ε σ α) : Prop :=
  ∀ s, R s (final (x.run s))

section Preorder

variable {R : σ → σ → Prop} (hrefl : ∀ s, R s s) (htrans : ∀ {s t u}, R s t → R t u → R s u)

include hrefl in
theorem keeps_pure (a : α) : Keeps R (pure a : EStateM ε σ α) := fun s => hrefl s

include hrefl in
theorem keeps_throw (e : ε) : Keeps R (throw e : EStateM ε σ α) := fun s => hrefl s

include htrans in
theorem Keeps.bind {x : EStateM ε σ α} {f : α → EStateM ε σ β} (hx : Keeps R x)
    (hf : ∀ a, Keeps R (f a)) : Keeps R (x >>= f) := by
  intro s
  have hfirst := hx s
  rw [EStateM.run_bind]
  cases hrun : x.run s with
  | ok a s₁ =>
    rw [hrun] at hfirst
    exact htrans hfirst (hf a s₁)
  | error e s₁ =>
    rw [hrun] at hfirst
    exact hfirst

theorem Keeps.attempt {x : EStateM ε σ α} (hx : Keeps R x) : Keeps R (attempt x) := hx

include hrefl in
theorem keeps_get : Keeps R (get : EStateM ε σ σ) := fun s => hrefl s

theorem keeps_modify {f : σ → σ} (hf : ∀ s, R s (f s)) :
    Keeps R (modify f : EStateM ε σ PUnit) := fun s => hf s

end Preorder

end Fallible

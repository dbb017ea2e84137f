/-
  What a computation adds to a log.

  The state holds a log, of which a run shows what it has done.  `Tells log x P` says that `x` does
  nothing to the log but to add some events at its end, and that `P` holds of these and of the
  result, whatever the state.  It is the specification of a program by what is seen of it: the rule
  for `>>=` puts the events of the parts one behind the other, so a loop is specified by an
  induction along its recursion, and nothing is said of the rest of the state.
-/
import HassSma.Lib.Fallible

namespace Telling

open Fallible

variable {ε σ ι α β : Type} {log : σ → List ι}

/-- The events that `x` adds, and its result, are as `P` has them. -/
def Tells (log : σ → List ι) (x : EStateM ε σ α) (P : List ι → Except ε α → Prop) : Prop :=
  ∀ s, ∃ es, log (final (x.run s)) = log s ++ es ∧ P es (value (x.run s))

theorem tells_pure {P : List ι → Except ε α → Prop} {a : α} (h : P [] (.ok a)) :
    Tells log (pure a : EStateM ε σ α) P := fun s => ⟨[], (List.append_nil (log s)).symm, h⟩

theorem tells_throw {P : List ι → Except ε α → Prop} {e : ε} (h : P [] (.error e)) :
    Tells log (throw e : EStateM ε σ α) P := fun s => ⟨[], (List.append_nil (log s)).symm, h⟩

theorem Tells.mono {x : EStateM ε σ α} {P Q : List ι → Except ε α → Prop} (hx : Tells log x P)
    (h : ∀ es r, P es r → Q es r) : Tells log x Q := by
  intro s
  obtain ⟨es, hlog, hes⟩ := hx s
  exact ⟨es, hlog, h es _ hes⟩

/-- A sequence tells what its first part tells, and then, unless that fails, the rest. -/
theorem Tells.bind {x : EStateM ε σ α} {f : α → EStateM ε σ β} {P : List ι → Except ε α → Prop}
    {R : List ι → Except ε β → Prop} (hx : Tells log x P)
    (herror : ∀ es e, P es (.error e) → R es (.error e))
    (hok : ∀ es a, P es (.ok a) → Tells log (f a) fun es' r => R (es ++ es') r) :
    Tells log (x >>= f) R := by
  intro s
  obtain ⟨es, hlog, hes⟩ := hx s
  cases hrun : x.run s with
  | error e s₁ =>
    rw [hrun] at hlog hes
    rw [bind_of_error hrun]
    exact ⟨es, hlog, herror es e hes⟩
  | ok a s₁ =>
    rw [hrun] at hlog hes
    obtain ⟨es', hlog', hrest⟩ := hok es a hes s₁
    rw [bind_of_ok hrun]
    refine ⟨es ++ es', ?_, hrest⟩
    rw [hlog', ← List.append_assoc]
    exact congrArg (· ++ es') hlog

/-- A first part that adds nothing leaves it to the rest. -/
theorem Tells.quiet_bind {x : EStateM ε σ α} {f : α → EStateM ε σ β}
    {R : List ι → Except ε β → Prop} (hx : Tells log x fun es _ => es = [])
    (herror : ∀ e, R [] (.error e)) (hf : ∀ a, Tells log (f a) R) : Tells log (x >>= f) R := by
  refine hx.bind ?_ ?_
  · rintro es e rfl
    exact herror e
  · rintro es a rfl
    exact hf a

end Telling

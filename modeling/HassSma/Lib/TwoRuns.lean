/-
  Two runs of one program against two surroundings.

  A program that asks its surroundings and puts out messages is run from two states, maybe of two
  types.  A window (`Window`) shows of a state what happened so far, with the answers in it, and what was
  put out.  `Alike` says that nothing but the answers makes a difference: as far as both runs get the
  same answers, they ask the same, put out the same and end with the same result.

  The answers of one run may go on where the other run ends; this is what the remainders `rest` and
  `rest'` are for, and it is what makes the rule for `>>=` go through: the answers of the first
  part are then followed by those of the second.
-/
import HassSma.Lib.Fallible

namespace TwoRuns

open Fallible

/-- What is seen of a state: the events so far, and the output. -/
structure Window (σ ι μ : Type) where
  events : σ → List ι
  output : σ → List μ

namespace Window

variable {σ ι μ : Type}

/-- From `s` to `s'` these events and outputs are added. -/
structure Adds (V : Window σ ι μ) (s s' : σ) (es : List ι) (os : List μ) : Prop where
  events : V.events s' = V.events s ++ es
  output : V.output s' = V.output s ++ os

variable {V : Window σ ι μ}

theorem adds_nil (s : σ) : V.Adds s s [] [] :=
  ⟨(List.append_nil _).symm, (List.append_nil _).symm⟩

theorem Adds.trans {s s₁ s' : σ} {es es₁ : List ι} {os os₁ : List μ} (h : V.Adds s s₁ es os)
    (h₁ : V.Adds s₁ s' es₁ os₁) : V.Adds s s' (es ++ es₁) (os ++ os₁) := by
  constructor
  · rw [h₁.events, h.events, List.append_assoc]
  · rw [h₁.output, h.output, List.append_assoc]

/-- What is added is determined by the two states. -/
theorem Adds.unique {s s' : σ} {es es₁ : List ι} {os os₁ : List μ} (h : V.Adds s s' es os)
    (h₁ : V.Adds s s' es₁ os₁) : es₁ = es ∧ os₁ = os :=
  ⟨List.append_cancel_left (h₁.events.symm.trans h.events),
    List.append_cancel_left (h₁.output.symm.trans h.output)⟩

end Window

variable {ε σ τ ι ω μ α β : Type} {answer : ι → ω} {V : Window σ ι μ} {W : Window τ ι μ}

/-- **The same answers make the same run.** -/
structure Alike (answer : ι → ω) (V : Window σ ι μ) (W : Window τ ι μ) (x : EStateM ε σ α)
    (y : EStateM ε τ α) : Prop where
  grows : ∀ s, ∃ es os, V.Adds s (final (x.run s)) es os
  grows' : ∀ t, ∃ es os, W.Adds t (final (y.run t)) es os
  same : ∀ {s t es es' os os' rest rest'}, V.Adds s (final (x.run s)) es os →
    W.Adds t (final (y.run t)) es' os' → es.map answer ++ rest = es'.map answer ++ rest' →
    es = es' ∧ os = os' ∧ value (x.run s) = value (y.run t)

theorem alike_pure (a : α) :
    Alike answer V W (pure a : EStateM ε σ α) (pure a : EStateM ε τ α) where
  grows s := ⟨[], [], Window.adds_nil s⟩
  grows' t := ⟨[], [], Window.adds_nil t⟩
  same hx hy _ := by
    obtain ⟨rfl, rfl⟩ := (Window.adds_nil _).unique hx
    obtain ⟨rfl, rfl⟩ := (Window.adds_nil _).unique hy
    exact ⟨rfl, rfl, rfl⟩

theorem alike_throw (e : ε) :
    Alike answer V W (throw e : EStateM ε σ α) (throw e : EStateM ε τ α) where
  grows s := ⟨[], [], Window.adds_nil s⟩
  grows' t := ⟨[], [], Window.adds_nil t⟩
  same hx hy _ := by
    obtain ⟨rfl, rfl⟩ := (Window.adds_nil _).unique hx
    obtain ⟨rfl, rfl⟩ := (Window.adds_nil _).unique hy
    exact ⟨rfl, rfl, rfl⟩

theorem grows_bind {x : EStateM ε σ α} {f : α → EStateM ε σ β}
    (hx : ∀ s, ∃ es os, V.Adds s (final (x.run s)) es os)
    (hf : ∀ a s, ∃ es os, V.Adds s (final ((f a).run s)) es os) (s : σ) :
    ∃ es os, V.Adds s (final ((x >>= f).run s)) es os := by
  obtain ⟨es, os, hadds⟩ := hx s
  cases hrun : x.run s with
  | error e s₁ =>
    rw [hrun] at hadds
    rw [bind_of_error hrun]
    exact ⟨es, os, hadds⟩
  | ok a s₁ =>
    rw [hrun] at hadds
    obtain ⟨es₁, os₁, hadds₁⟩ := hf a s₁
    rw [bind_of_ok hrun]
    exact ⟨es ++ es₁, os ++ os₁, hadds.trans hadds₁⟩

theorem Alike.bind {x : EStateM ε σ α} {y : EStateM ε τ α} {f : α → EStateM ε σ β}
    {g : α → EStateM ε τ β} (hx : Alike answer V W x y)
    (hf : ∀ a, Alike answer V W (f a) (g a)) : Alike answer V W (x >>= f) (y >>= g) where
  grows := grows_bind hx.grows fun a => (hf a).grows
  grows' := grows_bind hx.grows' fun a => (hf a).grows'
  same := by
    intro s t es es' os os' rest rest' hs ht hanswers
    obtain ⟨es₁, os₁, hs₁⟩ := hx.grows s
    obtain ⟨es₁', os₁', ht₁⟩ := hx.grows' t
    -- whatever follows, the first parts are alike
    have hfirst : ∀ {r r'}, es₁.map answer ++ r = es₁'.map answer ++ r' →
        es₁ = es₁' ∧ os₁ = os₁' ∧ value (x.run s) = value (y.run t) := hx.same hs₁ ht₁
    cases hrun : x.run s with
    | error e s₁ =>
      rw [hrun] at hs₁ hfirst
      rw [bind_of_error hrun] at hs ⊢
      obtain ⟨rfl, rfl⟩ := hs₁.unique hs
      cases hrun' : y.run t with
      | error e' t₁ =>
        rw [hrun'] at ht₁ hfirst
        rw [bind_of_error hrun'] at ht ⊢
        obtain ⟨rfl, rfl⟩ := ht₁.unique ht
        obtain ⟨hes, hos, hvalue⟩ := hfirst hanswers
        exact ⟨hes, hos, congrArg Except.error (Except.error.inj hvalue)⟩
      | ok b t₁ =>
        rw [hrun'] at ht₁ hfirst
        rw [bind_of_ok hrun'] at ht
        obtain ⟨es₂', os₂', ht₂⟩ := (hf b).grows' t₁
        obtain ⟨rfl, rfl⟩ := (ht₁.trans ht₂).unique ht
        rw [List.map_append, List.append_assoc] at hanswers
        nomatch (hfirst hanswers).2.2
    | ok a s₁ =>
      rw [hrun] at hs₁ hfirst
      rw [bind_of_ok hrun] at hs ⊢
      obtain ⟨es₂, os₂, hs₂⟩ := (hf a).grows s₁
      obtain ⟨rfl, rfl⟩ := (hs₁.trans hs₂).unique hs
      rw [List.map_append, List.append_assoc] at hanswers
      cases hrun' : y.run t with
      | error e' t₁ =>
        rw [hrun'] at ht₁ hfirst
        rw [bind_of_error hrun'] at ht
        obtain ⟨rfl, rfl⟩ := ht₁.unique ht
        nomatch (hfirst hanswers).2.2
      | ok b t₁ =>
        rw [hrun'] at ht₁ hfirst
        rw [bind_of_ok hrun'] at ht ⊢
        obtain ⟨es₂', os₂', ht₂⟩ := (hf b).grows' t₁
        obtain ⟨rfl, rfl⟩ := (ht₁.trans ht₂).unique ht
        rw [List.map_append, List.append_assoc] at hanswers
        obtain ⟨rfl, rfl, hvalue⟩ := hfirst hanswers
        obtain rfl := Except.ok.inj hvalue
        obtain ⟨rfl, rfl, hsecond⟩ := (hf a).same hs₂ ht₂ (List.append_cancel_left hanswers)
        exact ⟨rfl, rfl, hsecond⟩

end TwoRuns

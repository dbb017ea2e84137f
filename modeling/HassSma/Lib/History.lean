/-
  Histories of a system that is called again and again.

  `step c s` is what call `c` does in state `s`: a result and the next state.  The history of a list of
  calls keeps, for each of them, the states before and behind it and the result.  These rules reduce
  a property of histories to one of a single step:

  * `history_invariant`: an invariant may speak of the state and of all entries so far, so what must
    have happened earlier ("only if …") is carried along a run;
  * `history_cost_le`: if each step pays its cost out of a potential of the state, a whole history
    costs at most the potential it starts with;
  * `history_safe_iff`: if a step keeps an invariant exactly unless it is a bad one, then a history
    keeps it exactly if it has no bad step;
  * `history_forall₂`: calls that do the same in every state have the same history;
  * `history_view`: what is a step of another system, through a view of the states, is one of its histories;
  * `history_iterate`: a quantity that only some of the entries move, each in the same way, runs
    through the iterates of that move at those entries.

  A part of a history is a history (`history_cut`), so the rules apply to any stretch of a run.
-/
import Mathlib.Algebra.Ring.Nat
import Mathlib.Data.List.Forall2
import Mathlib.Logic.Function.Iterate

namespace History

variable {κ σ ω : Type}

/-- One call in a history. -/
structure Entry (κ σ ω : Type) where
  call : κ
  before : σ
  result : ω
  after : σ

section Steps

variable (step : κ → σ → ω × σ)

def entry (c : κ) (s : σ) : Entry κ σ ω := ⟨c, s, (step c s).1, (step c s).2⟩

/-- The entries of the calls, one after the other. -/
def history : List κ → σ → List (Entry κ σ ω)
  | [], _ => []
  | c :: cs, s => entry step c s :: history cs (entry step c s).after

end Steps

/-- The state behind a list of entries. -/
def behind (s : σ) : List (Entry κ σ ω) → σ
  | [] => s
  | e :: es => behind e.after es

variable {step : κ → σ → ω × σ}

/-- Every entry is one step from its own state. -/
theorem eq_entry_of_mem {cs : List κ} {s : σ} {e : Entry κ σ ω} (h : e ∈ history step cs s) :
    e = entry step e.call e.before := by
  induction cs generalizing s with
  | nil => nomatch h
  | cons c cs ih =>
    rw [history, List.mem_cons] at h
    rcases h with rfl | h
    · rfl
    · exact ih h

variable (step) in
/-- A history has its calls, in order. -/
theorem map_call_history (cs : List κ) (s : σ) : (history step cs s).map Entry.call = cs := by
  induction cs generalizing s with
  | nil => rfl
  | cons c cs ih => exact congrArg _ (ih (entry step c s).after)

theorem behind_append (s : σ) (es es' : List (Entry κ σ ω)) :
    behind s (es ++ es') = behind (behind s es) es' := by
  induction es generalizing s with
  | nil => rfl
  | cons e es ih => exact ih e.after

theorem history_append (cs cs' : List κ) (s : σ) :
    history step (cs ++ cs') s
      = history step cs s ++ history step cs' (behind s (history step cs s)) := by
  induction cs generalizing s with
  | nil => rfl
  | cons c cs ih => exact congrArg _ (ih (entry step c s).after)

/-- Any cut of a history leaves two histories, the second from where the first ends. -/
theorem history_cut {cs : List κ} {s : σ} {pre rest : List (Entry κ σ ω)}
    (h : history step cs s = pre ++ rest) :
    ∃ cs₁ cs₂, cs = cs₁ ++ cs₂ ∧ pre = history step cs₁ s ∧
      rest = history step cs₂ (behind s pre) := by
  induction pre generalizing cs s with
  | nil => exact ⟨[], cs, rfl, rfl, h.symm⟩
  | cons e pre ih =>
    cases cs with
    | nil => nomatch h
    | cons c cs =>
      obtain ⟨rfl, hrest⟩ := List.cons.inj h
      obtain ⟨cs₁, cs₂, rfl, rfl, hsuffix⟩ := ih hrest
      exact ⟨c :: cs₁, cs₂, rfl, rfl, hsuffix⟩

theorem history_split {cs : List κ} {s : σ} {pre rest : List (Entry κ σ ω)}
    (h : history step cs s = pre ++ rest) :
    ∃ cs₁ cs₂ s', pre = history step cs₁ s ∧ rest = history step cs₂ s' := by
  obtain ⟨cs₁, cs₂, -, hpre, hrest⟩ := history_cut h
  exact ⟨cs₁, cs₂, _, hpre, hrest⟩

/-- **Invariants with a past.**  If a step keeps `I`, with its own entry added to the past, then `I`
    holds in front of every entry, with the entries before it as the past. -/
theorem history_invariant {I : List (Entry κ σ ω) → σ → Prop}
    (hstep : ∀ past c s, I past s → I (past ++ [entry step c s]) (entry step c s).after)
    {cs : List κ} {s : σ} {past : List (Entry κ σ ω)} (hI : I past s)
    {pre post : List (Entry κ σ ω)} {e : Entry κ σ ω} (h : history step cs s = pre ++ e :: post) :
    I (past ++ pre) e.before := by
  induction pre generalizing cs s past with
  | nil =>
    cases cs with
    | nil => nomatch h
    | cons c cs =>
      obtain ⟨rfl, -⟩ := List.cons.inj h
      rw [List.append_nil]
      exact hI
  | cons d pre ih =>
    cases cs with
    | nil => nomatch h
    | cons c cs =>
      obtain ⟨rfl, hrest⟩ := List.cons.inj h
      have hnext := ih (hstep past c s hI) hrest
      rw [List.append_assoc] at hnext
      exact hnext

/-- Such an invariant from the start of a history on. -/
theorem history_before {I : List (Entry κ σ ω) → σ → Prop}
    (hstep : ∀ past c s, I past s → I (past ++ [entry step c s]) (entry step c s).after)
    {cs : List κ} {s : σ} (hI : I [] s) {pre post : List (Entry κ σ ω)} {e : Entry κ σ ω}
    (h : history step cs s = pre ++ e :: post) : I pre e.before :=
  history_invariant hstep hI h

/-- Such an invariant behind a whole history. -/
theorem history_behind {I : List (Entry κ σ ω) → σ → Prop}
    (hstep : ∀ past c s, I past s → I (past ++ [entry step c s]) (entry step c s).after)
    {cs : List κ} {s : σ} (hI : I [] s) : I (history step cs s) (behind s (history step cs s)) := by
  have hgo : ∀ past, I past s → I (past ++ history step cs s) (behind s (history step cs s)) := by
    clear hI
    induction cs generalizing s with
    | nil =>
      intro past hI
      rw [history, List.append_nil]
      exact hI
    | cons c cs ih =>
      intro past hI
      have hrest := ih _ (hstep past c s hI)
      rw [List.append_assoc] at hrest
      exact hrest
  exact hgo [] hI

/-- **Costs paid out of a potential.**  If every entry in `G` costs at most what it takes off the
    potential, a history of such entries costs at most the potential at its start. -/
theorem history_cost_le {cost : Entry κ σ ω → Nat} {φ : σ → Nat} {G : Entry κ σ ω → Prop}
    (hstep : ∀ c s, G (entry step c s) →
      cost (entry step c s) + φ (entry step c s).after ≤ φ s)
    {cs : List κ} {s : σ} (hG : ∀ e ∈ history step cs s, G e) :
    ((history step cs s).map cost).sum ≤ φ s := by
  induction cs generalizing s with
  | nil => exact Nat.zero_le _
  | cons c cs ih =>
    rw [history, List.forall_mem_cons] at hG
    have hrest := ih hG.2
    have hfirst := hstep c s hG.1
    rw [history, List.map_cons, List.sum_cons]
    omega

/-- **Exact conditions.**  If a step from a state in `I` stays in `I` exactly unless it is bad there, then
    a history from `I` stays in `I` exactly if none of its steps is bad. -/
theorem history_safe_iff {I : σ → Prop} {Bad : κ → σ → Prop} {cs : List κ}
    (hstep : ∀ c ∈ cs, ∀ s, I s → (I (entry step c s).after ↔ ¬ Bad c s)) {s : σ} (hI : I s) :
    (∀ e ∈ history step cs s, I e.after) ↔ ∀ e ∈ history step cs s, ¬ Bad e.call e.before := by
  induction cs generalizing s with
  | nil => exact iff_of_true nofun nofun
  | cons c cs ih =>
    rw [List.forall_mem_cons] at hstep
    rw [history, List.forall_mem_cons, List.forall_mem_cons]
    constructor
    · rintro ⟨hfirst, hrest⟩
      exact ⟨(hstep.1 s hI).mp hfirst, (ih hstep.2 hfirst).mp hrest⟩
    · rintro ⟨hgood, hrest⟩
      have hfirst : I (entry step c s).after := (hstep.1 s hI).mpr hgood
      exact ⟨hfirst, (ih hstep.2 hfirst).mpr hrest⟩

/-- **Calls that do the same.**  Two histories of calls that cannot be told apart have the same results
    and states, entry by entry. -/
theorem history_forall₂ {κ' : Type} {step' : κ' → σ → ω × σ} {R : κ → κ' → Prop}
    (hstep : ∀ c c', R c c' → ∀ s, step c s = step' c' s) {cs : List κ} {cs' : List κ'}
    (hcs : List.Forall₂ R cs cs') (s : σ) :
    (history step cs s).map (fun e => (e.result, e.after))
      = (history step' cs' s).map fun e => (e.result, e.after) := by
  induction hcs generalizing s with
  | nil => rfl
  | @cons c c' cs cs' hc _ ih =>
    have hsame := hstep c c' hc s
    have hafter : (entry step c s).after = (entry step' c' s).after := congrArg Prod.snd hsame
    rw [history, history, List.map_cons, List.map_cons, hafter, ih]
    show ((step c s).1, _) :: _ = ((step' c' s).1, _) :: _
    rw [hsame]

/-- An entry as it looks through a view of the states. -/
def Entry.view {τ : Type} (f : σ → τ) (e : Entry κ σ ω) : Entry κ τ ω :=
  ⟨e.call, f e.before, e.result, f e.after⟩

/-- **Views.**  If a step of one system is a step of another through a view of the states, then so is a
    whole history. -/
theorem history_view {τ : Type} {step' : κ → τ → ω × τ} {f : σ → τ}
    (hstep : ∀ c s, (step c s).1 = (step' c (f s)).1 ∧ f (step c s).2 = (step' c (f s)).2)
    (cs : List κ) (s : σ) : (history step cs s).map (Entry.view f) = history step' cs (f s) := by
  induction cs generalizing s with
  | nil => rfl
  | cons c cs ih =>
    obtain ⟨hresult, hafter⟩ := hstep c s
    have hentry : (entry step c s).view f = entry step' c (f s) := by
      rw [Entry.view, entry, entry, hresult, hafter]
    have hrest := ih (entry step c s).after
    rw [show f (entry step c s).after = (entry step' c (f s)).after from hafter] at hrest
    rw [history, history, List.map_cons, hentry, hrest]

theorem behind_view {τ : Type} (f : σ → τ) (s : σ) (es : List (Entry κ σ ω)) :
    behind (f s) (es.map (Entry.view f)) = f (behind s es) := by
  induction es generalizing s with
  | nil => rfl
  | cons e es ih => exact ih e.after

/-- **Iterated moves.**  If the entries in `P` move a quantity by `g` and no others touch it, then it
    stands at the iterates of `g` in front of the entries in `P`, one after the other. -/
theorem history_iterate {α : Type} {φ : σ → α} {g : α → α} {P : Entry κ σ ω → Bool} {cs : List κ}
    {s : σ}
    (hstep : ∀ e ∈ history step cs s, φ e.after = if P e then g (φ e.before) else φ e.before) :
    ((history step cs s).filter P).map (fun e => φ e.before)
      = (List.range ((history step cs s).filter P).length).map fun k => g^[k] (φ s) := by
  induction cs generalizing s with
  | nil => rfl
  | cons c cs ih =>
    rw [history, List.forall_mem_cons] at hstep
    obtain ⟨hfirst, hrest⟩ := hstep
    have htail := ih hrest
    rw [hfirst] at htail
    rw [history]
    cases hP : P (entry step c s) with
    | false =>
      rw [hP, if_neg Bool.false_ne_true] at htail
      rw [List.filter_cons_of_neg (by simp [hP])]
      exact htail
    | true =>
      rw [hP, if_pos rfl] at htail
      rw [List.filter_cons_of_pos (by simp [hP]), List.map_cons, List.length_cons,
        List.range_succ_eq_map, List.map_cons, List.map_map, htail]
      rfl

end History

/-
  One stream made of several.

  A trace is a list of entries, each with its owner.  `all` is the stream that an observer of everything
  sees, `of i` the part of it that `i` contributed.  The owners may be interleaved in any way.

  Where a property picks entries of one owner alone, it picks the same from the whole stream and from
  the owner's part of it (`filter_all`); so an observer who looks at what is one owner's business
  cannot tell that there are others.
-/
import Mathlib.Data.List.Basic

namespace Interleave

variable {ι α : Type}

/-- The whole stream. -/
def all (trace : List (ι × α)) : List α := trace.map Prod.snd

theorem all_append (trace trace' : List (ι × α)) : all (trace ++ trace') = all trace ++ all trace' :=
  List.map_append

/-- A place in the stream is a place in the trace. -/
theorem all_split {trace : List (ι × α)} {before behind : List α} {a : α}
    (h : all trace = before ++ a :: behind) :
    ∃ front i back, trace = front ++ (i, a) :: back ∧ all front = before := by
  obtain ⟨front, rest, rfl, hfront, hrest⟩ := List.map_eq_append_iff.mp h
  obtain ⟨⟨i, a'⟩, back, rfl, rfl, -⟩ := List.map_eq_cons_iff.mp hrest
  exact ⟨front, i, back, rfl, hfront⟩

variable [DecidableEq ι]

/-- What `i` contributed. -/
def of (i : ι) (trace : List (ι × α)) : List α := (trace.filter fun p => p.1 = i).map Prod.snd

theorem of_append (i : ι) (trace trace' : List (ι × α)) :
    of i (trace ++ trace') = of i trace ++ of i trace' := by
  rw [of, List.filter_append, List.map_append]
  rfl

theorem of_cons_self (i : ι) (a : α) (trace : List (ι × α)) : of i ((i, a) :: trace) = a :: of i trace := by
  rw [of, List.filter_cons_of_pos (by simp), List.map_cons]
  rfl

theorem of_front {front trace : List (ι × α)} (h : front <+: trace) (i : ι) :
    of i front <+: of i trace := by
  obtain ⟨back, rfl⟩ := h
  rw [of_append]
  exact List.prefix_append _ _

/-- **One owner's business**: picked from the whole stream or from the owner's part. -/
theorem filter_all {trace : List (ι × α)} {p : α → Bool} {i : ι}
    (h : ∀ e ∈ trace, p e.2 = true → e.1 = i) : (all trace).filter p = (of i trace).filter p := by
  induction trace with
  | nil => rfl
  | cons e trace ih =>
    rw [List.forall_mem_cons] at h
    have hrest := ih h.2
    obtain ⟨j, a⟩ := e
    rw [all, List.map_cons, ← all, List.filter_cons, hrest]
    by_cases hj : j = i
    · subst hj
      rw [of_cons_self, List.filter_cons]
    · -- another owner's entry is not picked
      have hnot : p a ≠ true := fun ha => hj (h.1 ha)
      rw [if_neg hnot, of, of, List.filter_cons_of_neg (by simpa using hj)]

end Interleave

/-
  Names joined with a separator, over any alphabet.

  `a ++ sep :: x` does not tell where `a` ends if `a` may hold separators too.  It does as soon as the
  words behind the separator come from a set in which no word ends in a separator and another word
  (`SepFree`): then the join is injective, whatever stands in front (`SepFree.join_inj`).  Words without
  separators are such a set (`sepFree_plain`), so that a name with several parts is taken apart from its
  end, part by part.
-/
import Mathlib.Data.Set.Basic

namespace Joined

variable {α : Type} {sep : α}

/-- No word of the set ends in a separator and a word of the set. -/
def SepFree (sep : α) (words : Set (List α)) : Prop :=
  ∀ x ∈ words, ∀ y ∈ words, ¬ sep :: x <:+ y

/-- Words without separators. -/
theorem sepFree_plain : SepFree sep {x | sep ∉ x} := by
  intro x _ y hy hsuffix
  exact hy (hsuffix.subset List.mem_cons_self)

/-- **The join is injective**: the last word is known, and so is what is in front of it. -/
theorem SepFree.join_inj {words : Set (List α)} (h : SepFree sep words) {x y : List α} (hx : x ∈ words)
    (hy : y ∈ words) (a b : List α) : a ++ sep :: x = b ++ sep :: y ↔ a = b ∧ x = y := by
  constructor
  · intro heq
    -- the front that is longer holds a separator and all of the other word
    rcases List.append_eq_append_iff.mp heq with ⟨t, rfl, htail⟩ | ⟨t, rfl, htail⟩
    · cases t with
      | nil => exact ⟨(List.append_nil a).symm, (List.cons.inj htail).2⟩
      | cons c t =>
        obtain ⟨-, hend⟩ := List.cons.inj htail
        exact absurd ⟨t, hend.symm⟩ (h y hy x hx)
    · cases t with
      | nil => exact ⟨List.append_nil b, (List.cons.inj htail).2.symm⟩
      | cons c t =>
        obtain ⟨-, hend⟩ := List.cons.inj htail
        exact absurd ⟨t, hend.symm⟩ (h x hx y hy)
  · rintro ⟨rfl, rfl⟩
    rfl

/-- The same for texts. -/
theorem SepFree.text_inj {c : Char} {words : Set (List Char)} (h : SepFree c words) {s x y : String}
    (hs : s.toList = [c]) (hx : x.toList ∈ words) (hy : y.toList ∈ words) (a b : String) :
    a ++ s ++ x = b ++ s ++ y ↔ a = b ∧ x = y := by
  rw [← String.toList_inj]
  simp only [String.toList_append, hs, List.append_assoc, List.singleton_append]
  rw [h.join_inj hx hy, String.toList_inj, String.toList_inj]

end Joined

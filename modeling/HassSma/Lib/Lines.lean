/-
  Texts that grow at their end, line by line, over any alphabet.

  The lines of a text are what stands between its separators (`List.splitOn`), so a text always has one
  line behind its last separator, which may be empty: its open line.  What is appended goes into the open
  line up to its own first separator (`splitOn_append`).

  A text is `Headed` by `h` if its first line is `h`, closed, and no other line is `h`.  Whether it still
  is when more is appended depends on its open line and on the lines of what is appended
  (`Headed.append_iff`).
-/
import Mathlib.Data.List.Basic

namespace Lines

variable {α : Type} [DecidableEq α] (sep : α)

/-! ## The lines of a text -/

/-- What stands in front of the first separator. -/
def firstLine (s : List α) : List α := (s.splitOn sep).headD []

/-- The lines behind the first separator. -/
def laterLines (s : List α) : List (List α) := (s.splitOn sep).tail

/-- What stands behind the last separator. -/
def openLine (s : List α) : List α := (s.splitOn sep).getLastD []

theorem splitOn_eq (s : List α) : s.splitOn sep = firstLine sep s :: laterLines sep s := by
  rw [firstLine, laterLines]
  cases h : s.splitOn sep with
  | nil => exact absurd h (List.splitOn_ne_nil sep s)
  | cons l ls => rfl

/-- **What is appended goes into the open line**, up to its own first separator. -/
theorem splitOn_append (s t : List α) :
    (s ++ t).splitOn sep
      = (s.splitOn sep).dropLast ++ (openLine sep s ++ firstLine sep t) :: laterLines sep t := by
  induction s with
  | nil => exact splitOn_eq sep t
  | cons a s ih =>
    rw [openLine] at ih ⊢
    rw [List.cons_append, List.splitOn_cons_eq_if_modifyHead, List.splitOn_cons_eq_if_modifyHead a s,
      ih]
    -- a separator in front opens a line, any other symbol goes into the first one
    have hne := List.splitOn_ne_nil sep s
    generalize s.splitOn sep = lines at hne
    match lines, hne with
    | [l], _ => split <;> rfl
    | l :: l' :: lines, _ => split <;> rfl

/-- The first line of a text that starts with something else. -/
theorem firstLine_cons {a : α} (ha : a ≠ sep) (s : List α) :
    firstLine sep (a :: s) = a :: firstLine sep s := by
  rw [firstLine, List.splitOn_cons_eq_if_modifyHead, if_neg (by simpa using ha), splitOn_eq]
  rfl

/-- A line and its separator in front. -/
theorem splitOn_line {h : List α} (hh : sep ∉ h) (s : List α) :
    (h ++ sep :: s).splitOn sep = h :: s.splitOn sep :=
  List.splitOn_append_cons_self_of_not_mem hh s

theorem openLine_line {h : List α} (hh : sep ∉ h) (s : List α) :
    openLine sep (h ++ sep :: s) = openLine sep s := by
  rw [openLine, openLine, splitOn_line sep hh, splitOn_eq]
  rfl

/-! ## Headed texts -/

/-- The first line is `h`, closed, and no other line is `h`. -/
def Headed (h s : List α) : Prop := h ++ [sep] <+: s ∧ (s.splitOn sep).count h = 1

variable {sep} {h : List α} (hh : sep ∉ h)

include hh

theorem headed_line_iff (s : List α) : Headed sep h (h ++ sep :: s) ↔ h ∉ s.splitOn sep := by
  rw [Headed, splitOn_line sep hh, List.count_cons_self, Nat.add_eq_right, List.count_eq_zero]
  refine and_iff_right ⟨s, ?_⟩
  rw [List.append_assoc, List.singleton_append]

theorem Headed.exists_line {s : List α} (hs : Headed sep h s) :
    ∃ rest, s = h ++ sep :: rest ∧ h ∉ rest.splitOn sep := by
  obtain ⟨rest, rfl⟩ := hs.1
  rw [List.append_assoc, List.singleton_append] at hs ⊢
  exact ⟨rest, rfl, (headed_line_iff hh rest).mp hs⟩

/-- **What may be appended to a headed text**: the open line does not become the header, and none of the
    lines that follow it is one. -/
theorem Headed.append_iff {s : List α} (hs : Headed sep h s) (t : List α) :
    Headed sep h (s ++ t) ↔ openLine sep s ++ firstLine sep t ≠ h ∧ h ∉ laterLines sep t := by
  obtain ⟨rest, rfl, hrest⟩ := hs.exists_line hh
  rw [List.append_assoc, List.cons_append, headed_line_iff hh, openLine_line sep hh, splitOn_append,
    List.mem_append, List.mem_cons, not_or, not_or]
  -- the lines that are closed stay as they are
  have hearlier : h ∉ (rest.splitOn sep).dropLast := fun hmem => hrest ((List.dropLast_sublist _).subset hmem)
  rw [and_iff_right hearlier]
  exact and_congr_left fun _ => ne_comm

theorem Headed.openLine_ne {s : List α} (hs : Headed sep h s) : openLine sep s ≠ h := by
  have happend := hs.append_iff hh []
  rw [List.append_nil] at happend
  have hopen := (happend.mp hs).1
  rwa [show firstLine sep ([] : List α) = [] from rfl, List.append_nil] at hopen

end Lines

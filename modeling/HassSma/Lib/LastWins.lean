/-
  Folds in which the last one wins.

  Each item of a list has a key, and a fold keeps one item for each key, in whatever form: a new item
  replaces the one that was kept under its key and leaves the others alone.  So a run over the list
  ends in what the last items of each key make up (`foldl_eq_ofLast`), and all it reads off the list
  is `last key k`.

  `last` is blind to much of the list: items with other keys may be put in anywhere (`last_insert`),
  and items with pairwise distinct keys may be put in another order (`last_perm`).
-/
import Mathlib.Data.List.Induction
import Mathlib.Data.List.Perm.Basic

namespace LastWins

variable {ι κ α : Type} [DecidableEq κ] (key : ι → κ)

/-- The last item with the key. -/
def last (k : κ) (items : List ι) : Option ι := (items.filter fun x => key x = k).getLast?

theorem last_concat (k : κ) (items : List ι) (x : ι) :
    last key k (items ++ [x]) = if key x = k then some x else last key k items := by
  rw [last, List.filter_append]
  by_cases hx : key x = k
  · rw [if_pos hx, List.filter_cons_of_pos (by simpa using hx), List.filter_nil, List.getLast?_concat]
  · rw [if_neg hx, List.filter_cons_of_neg (by simpa using hx), List.filter_nil, List.append_nil, last]

theorem last_append (k : κ) (items more : List ι) :
    last key k (items ++ more) = (last key k more).or (last key k items) := by
  rw [last, List.filter_append, List.getLast?_append, last, last]

/-- Without an item of that key there is no last one. -/
theorem last_eq_none {k : κ} {items : List ι} (h : ∀ x ∈ items, key x ≠ k) :
    last key k items = none := by
  have hnil : (items.filter fun x => key x = k) = [] := by
    rw [List.filter_eq_nil_iff]
    intro x hx
    simpa using h x hx
  rw [last, hnil, List.getLast?_nil]

/-- The last item with a key is one of the items, and has it. -/
theorem last_mem {k : κ} {items : List ι} {x : ι} (h : last key k items = some x) :
    x ∈ items ∧ key x = k := by
  have hmem := List.mem_of_getLast? h
  rw [List.mem_filter] at hmem
  exact ⟨hmem.1, by simpa using hmem.2⟩

/-- Items with other keys do not matter, wherever they are put in. -/
theorem last_insert {k : κ} {inserted : List ι} (h : ∀ x ∈ inserted, key x ≠ k)
    (front back : List ι) :
    last key k (front ++ inserted ++ back) = last key k (front ++ back) := by
  rw [last_append, last_append, last_append, last_eq_none key h, Option.none_or]

/-- Among items with distinct keys the order does not matter. -/
theorem last_perm {items items' : List ι} (hperm : items.Perm items')
    (hdistinct : items.Pairwise fun x y => key x ≠ key y) (k : κ) :
    last key k items = last key k items' := by
  have hfilter := hperm.filter fun x => key x = k
  -- at most one item has the key
  have hone : ∀ x y tail, (items.filter fun x => key x = k) ≠ x :: y :: tail := by
    intro x y tail hcons
    have hsub := hdistinct.filter fun x => key x = k
    rw [hcons] at hsub
    have hmem : ∀ z ∈ x :: y :: tail, key z = k := by
      intro z hz
      rw [← hcons, List.mem_filter] at hz
      simpa using hz.2
    have hx := hmem x List.mem_cons_self
    have hy := hmem y (List.mem_cons_of_mem x List.mem_cons_self)
    exact (List.pairwise_cons.mp hsub).1 y List.mem_cons_self (hx.trans hy.symm)
  rw [last, last]
  rcases hitems : items.filter (fun x => key x = k) with _ | ⟨x, _ | ⟨y, tail⟩⟩
  · rw [hitems] at hfilter
    rw [List.nil_perm.mp hfilter]
  · rw [hitems] at hfilter
    rw [List.singleton_perm.mp hfilter]
  · exact absurd hitems (hone x y tail)

/-- **The last item wins**: where an item only replaces the one that was kept under its key, a run
    over the items ends in what the last ones make up. -/
theorem foldl_eq_ofLast {f : α → ι → α} {ofLast : (κ → Option ι) → α} {start : α}
    (hstart : start = ofLast fun _ => none)
    (hstep : ∀ kept x, f (ofLast kept) x = ofLast fun k => if key x = k then some x else kept k)
    (items : List ι) : items.foldl f start = ofLast fun k => last key k items := by
  induction items using List.reverseRecOn with
  | nil => exact hstart
  | append_singleton items x ih =>
    rw [List.foldl_concat, ih, hstep]
    congr 1
    funext k
    rw [last_concat]

end LastWins

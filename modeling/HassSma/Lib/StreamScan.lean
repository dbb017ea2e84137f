/-
  Cutting a stream into length-declared frames, over any alphabet.

  A `Framing α` says which symbols may start a frame, how long a header is, and which total length
  a header declares (`none` for a header that is not one).  `scan` is the leftmost-greedy reading
  of a stream: skip to a start symbol, wait if the header is not complete, drop one symbol if the
  header is bad, and otherwise take as many symbols as declared — or wait for them.  It returns the
  frames and the symbols it is still waiting on.

  Results about a scan go by `scan_induction`, which follows its three ways to go on.

  The law that makes an incremental reader possible is `scan_append`: scanning `s ++ t` is scanning
  `s`, then scanning what was pending followed by `t`.  So a reader that keeps the pending symbols
  computes the same frames however the stream is cut.

  The frames are contiguous, non-overlapping slices of the stream in order (`scan_slices`), each
  one declares its own length (`scan_valid`), and a well-formed frame behind a gap without start
  symbols is always found (`scan_gap_frame`).
-/
import Mathlib.Data.List.Basic

/-- Start symbols, header length and declared total length. -/
structure Framing (α : Type) where
  isStart : α → Bool
  headerLen : Nat
  declared : List α → Option Nat
  headerLen_pos : 0 < headerLen
  headerLen_le : ∀ {h n}, declared h = some n → headerLen ≤ n

namespace Framing

variable {α : Type} (F : Framing α)

/-- The frames of a stream, leftmost first, and the symbols that wait for more input. -/
def scan : List α → List (List α) × List α
  | [] => ([], [])
  | a :: s =>
    if F.isStart a = false then scan s
    else if (a :: s).length < F.headerLen then ([], a :: s)
    else
      match _h : F.declared ((a :: s).take F.headerLen) with
      | none => scan s
      | some n =>
        if (a :: s).length < n then ([], a :: s)
        else ((a :: s).take n :: (scan ((a :: s).drop n)).1, (scan ((a :: s).drop n)).2)
termination_by s => s.length
decreasing_by
  · simp
  · simp
  all_goals
    have := F.headerLen_pos
    have := F.headerLen_le ‹_›
    simp only [List.length_drop, List.length_cons]; omega

/-- A frame: it begins with a start symbol and its header declares its length. -/
structure Valid (f : List α) : Prop where
  start : ∃ a s, f = a :: s ∧ F.isStart a = true
  declared : F.declared (f.take F.headerLen) = some f.length

/-! ## One step of the scan -/

@[simp] theorem scan_nil : F.scan [] = ([], []) := by rw [scan]

theorem scan_skip {a : α} (ha : F.isStart a = false) (s : List α) : F.scan (a :: s) = F.scan s := by
  rw [scan, if_pos ha]

theorem scan_short {a : α} {s : List α} (ha : F.isStart a = true)
    (hs : (a :: s).length < F.headerLen) : F.scan (a :: s) = ([], a :: s) := by
  rw [scan, if_neg (by simp [ha]), if_pos hs]

theorem scan_bad {a : α} {s : List α} (hs : F.headerLen ≤ (a :: s).length)
    (hd : F.declared ((a :: s).take F.headerLen) = none) : F.scan (a :: s) = F.scan s := by
  rw [scan]
  split
  · rfl
  · rw [if_neg (by omega)]
    split
    · rfl
    · rename_i n h; rw [hd] at h; nomatch h

theorem scan_wait {a : α} {s : List α} {n : Nat} (ha : F.isStart a = true)
    (hs : F.headerLen ≤ (a :: s).length) (hd : F.declared ((a :: s).take F.headerLen) = some n)
    (hn : (a :: s).length < n) : F.scan (a :: s) = ([], a :: s) := by
  rw [scan, if_neg (by simp [ha]), if_neg (by omega)]
  split
  · rename_i h; rw [hd] at h; nomatch h
  · rename_i m h
    obtain rfl : n = m := Option.some.inj (hd.symm.trans h)
    rw [if_pos hn]

theorem scan_emit {a : α} {s : List α} {n : Nat} (ha : F.isStart a = true)
    (hd : F.declared ((a :: s).take F.headerLen) = some n) (hn : n ≤ (a :: s).length) :
    F.scan (a :: s) =
      ((a :: s).take n :: (F.scan ((a :: s).drop n)).1, (F.scan ((a :: s).drop n)).2) := by
  have hle := F.headerLen_le hd
  rw [scan, if_neg (by simp [ha]), if_neg (by omega)]
  split
  · rename_i h; rw [hd] at h; nomatch h
  · rename_i m h
    obtain rfl : n = m := Option.some.inj (hd.symm.trans h)
    rw [if_neg (by omega)]

/-- The first symbol is dropped: it starts nothing, or its header is bad. -/
def Dropped (a : α) (s : List α) : Prop :=
  F.isStart a = false ∨
    F.headerLen ≤ (a :: s).length ∧ F.declared ((a :: s).take F.headerLen) = none

variable {F} in
theorem Dropped.scan {a : α} {s : List α} (h : F.Dropped a s) : F.scan (a :: s) = F.scan s := by
  rcases h with ha | ⟨hs, hd⟩
  · exact F.scan_skip ha s
  · exact F.scan_bad hs hd

variable {F} in
/-- What comes later does not save it. -/
theorem Dropped.append {a : α} {s : List α} (h : F.Dropped a s) (t : List α) :
    F.Dropped a (s ++ t) := by
  rcases h with ha | ⟨hs, hd⟩
  · exact .inl ha
  · refine .inr ⟨?_, ?_⟩
    · rw [← List.cons_append, List.length_append]
      omega
    · rw [← List.cons_append, List.take_append_of_le_length hs]
      exact hd

/-- **Induction along the scan**: a symbol is dropped, the rest waits, or a frame is taken. -/
theorem scan_induction {motive : List α → Prop} (nil : motive [])
    (dropped : ∀ a s, F.Dropped a s → motive s → motive (a :: s))
    (waiting : ∀ a s, F.scan (a :: s) = ([], a :: s) → motive (a :: s))
    (frame : ∀ a s n, F.isStart a = true → F.declared ((a :: s).take F.headerLen) = some n →
      n ≤ (a :: s).length → motive ((a :: s).drop n) → motive (a :: s))
    (s : List α) : motive s := by
  induction hl : s.length using Nat.strongRecOn generalizing s with
  | ind l ih =>
    subst hl
    match s with
    | [] => exact nil
    | a :: s =>
      have htail : motive s := ih s.length (by simp) s rfl
      by_cases ha : F.isStart a = true
      · rcases Nat.lt_or_ge (a :: s).length F.headerLen with hshort | hs
        · exact waiting a s (F.scan_short ha hshort)
        · cases hd : F.declared ((a :: s).take F.headerLen) with
          | none => exact dropped a s (.inr ⟨hs, hd⟩) htail
          | some n =>
            rcases Nat.lt_or_ge (a :: s).length n with hn | hn
            · exact waiting a s (F.scan_wait ha hs hd hn)
            · have hpos : 0 < n := Nat.lt_of_lt_of_le F.headerLen_pos (F.headerLen_le hd)
              have hless : ((a :: s).drop n).length < (a :: s).length := by
                rw [List.length_drop, List.length_cons]
                omega
              exact frame a s n ha hd hn (ih _ hless _ rfl)
      · exact dropped a s (.inl (by simpa using ha)) htail

/-! ## Scanning in two goes -/

/-- **Resumption.**  Scanning `s ++ t` is scanning `s`, then the pending symbols followed by `t`. -/
theorem scan_append (s t : List α) :
    F.scan (s ++ t) =
      ((F.scan s).1 ++ (F.scan ((F.scan s).2 ++ t)).1, (F.scan ((F.scan s).2 ++ t)).2) := by
  induction s using F.scan_induction with
  | nil => simp
  | dropped a s hdrop ih => rw [hdrop.scan, List.cons_append, (hdrop.append t).scan, ih]
  | waiting a s hwait => simp [hwait]
  | frame a s n ha hd hn ih =>
    have hle := F.headerLen_le hd
    have hd' : F.declared ((a :: (s ++ t)).take F.headerLen) = some n := by
      rw [← List.cons_append, List.take_append_of_le_length (by omega), hd]
    have hn' : n ≤ (a :: (s ++ t)).length := by
      rw [← List.cons_append, List.length_append]
      omega
    rw [F.scan_emit ha hd hn, List.cons_append, F.scan_emit ha hd' hn', ← List.cons_append,
      List.drop_append_of_le_length hn, List.take_append_of_le_length hn, ih]
    rfl

/-- What waits contains no frame: scanning it again changes nothing. -/
theorem scan_pending (s : List α) : F.scan (F.scan s).2 = ([], (F.scan s).2) := by
  have h := F.scan_append s []
  rw [List.append_nil, List.append_nil] at h
  obtain ⟨hframes, hpending⟩ := Prod.ext_iff.mp h
  exact Prod.ext (List.self_eq_append_right.mp hframes) hpending.symm

/-! ## What the frames are -/

/-- Every frame declares its own length. -/
theorem scan_valid (s : List α) : ∀ f ∈ (F.scan s).1, F.Valid f := by
  induction s using F.scan_induction with
  | nil => simp
  | dropped a s hdrop ih =>
    rw [hdrop.scan]
    exact ih
  | waiting a s hwait => simp [hwait]
  | frame a s n ha hd hn ih =>
    have hle := F.headerLen_le hd
    have hpos := F.headerLen_pos
    rw [F.scan_emit ha hd hn, List.forall_mem_cons]
    refine ⟨⟨⟨a, s.take (n - 1), ?_, ha⟩, ?_⟩, ih⟩
    · obtain ⟨m, rfl⟩ := Nat.exists_eq_succ_of_ne_zero (by omega : n ≠ 0)
      rw [List.take_succ_cons, Nat.succ_sub_one]
    · rw [List.take_take, Nat.min_eq_left hle, hd, List.length_take, Nat.min_eq_left hn]

/-- **The frames are slices of the stream**, in order and without overlap: the stream is the frames
    with a gap before each, a last gap, and the pending symbols. -/
theorem scan_slices (s : List α) : ∃ (gaps : List (List α)) (last : List α),
    gaps.length = (F.scan s).1.length ∧
    s = (List.zipWith (· ++ ·) gaps (F.scan s).1).flatten ++ last ++ (F.scan s).2 := by
  induction s using F.scan_induction with
  | nil => exact ⟨[], [], by simp⟩
  | dropped a s hdrop ih =>
    -- a dropped symbol joins the first gap behind it
    obtain ⟨gaps, last, hlen, hs⟩ := ih
    rw [hdrop.scan]
    cases hf : (F.scan s).1 with
    | nil =>
      rw [hf] at hs hlen
      refine ⟨[], a :: last, rfl, ?_⟩
      rw [List.eq_nil_of_length_eq_zero hlen] at hs
      simpa using hs
    | cons f fs =>
      rw [hf] at hs hlen
      obtain ⟨g, gs, rfl⟩ := List.exists_cons_of_length_pos (l := gaps) (by simp [hlen])
      refine ⟨(a :: g) :: gs, last, by simpa using hlen, ?_⟩
      simpa using hs
  | waiting a s hwait => exact ⟨[], [], by simp [hwait]⟩
  | frame a s n ha hd hn ih =>
    obtain ⟨gaps, last, hlen, hrest⟩ := ih
    rw [F.scan_emit ha hd hn]
    refine ⟨[] :: gaps, last, by simpa using hlen, ?_⟩
    conv_lhs => rw [← List.take_append_drop n (a :: s), hrest]
    simp

theorem length_pending_le (s : List α) : (F.scan s).2.length ≤ s.length := by
  obtain ⟨gaps, last, -, hs⟩ := F.scan_slices s
  have hlen := congrArg List.length hs
  rw [List.length_append] at hlen
  omega

/-- A string without a frame that starts no earlier than its first symbol. -/
def Waiting (p : List α) : Prop := F.scan p = ([], p)

theorem waiting_nil : F.Waiting [] := F.scan_nil

theorem waiting_pending (s : List α) : F.Waiting (F.scan s).2 := F.scan_pending s

/-- What waits is empty, an incomplete header, or an incomplete frame. -/
theorem waiting_cases {p : List α} (h : F.Waiting p) :
    p = [] ∨ ∃ a s, p = a :: s ∧ F.isStart a = true ∧ (p.length < F.headerLen ∨
      F.headerLen ≤ p.length ∧ ∃ n, F.declared (p.take F.headerLen) = some n ∧ p.length < n) := by
  match p, h with
  | [], _ => exact .inl rfl
  | a :: s, h =>
    refine .inr ⟨a, s, rfl, ?_⟩
    -- a dropped symbol cannot come back
    have hkeep : F.scan (a :: s) ≠ F.scan s := by
      intro heq
      have hle := F.length_pending_le s
      rw [← heq, h, List.length_cons] at hle
      omega
    have ha : F.isStart a = true := by
      by_contra hne
      exact hkeep (F.scan_skip (by simpa using hne) s)
    refine ⟨ha, ?_⟩
    rcases Nat.lt_or_ge (a :: s).length F.headerLen with hshort | hs
    · exact .inl hshort
    · refine .inr ⟨hs, ?_⟩
      cases hd : F.declared ((a :: s).take F.headerLen) with
      | none => exact absurd (F.scan_bad hs hd) hkeep
      | some n =>
        refine ⟨n, rfl, Nat.lt_of_not_le fun hn => ?_⟩
        have hemit := F.scan_emit ha hd hn
        rw [h] at hemit
        nomatch congrArg Prod.fst hemit

/-! ## Finding a frame -/

/-- A gap without start symbols is skipped. -/
theorem scan_gap {gap : List α} (hgap : ∀ a ∈ gap, F.isStart a = false) (s : List α) :
    F.scan (gap ++ s) = F.scan s := by
  induction gap with
  | nil => rfl
  | cons a gap ih =>
    rw [List.cons_append, F.scan_skip (hgap a List.mem_cons_self),
      ih fun b hb => hgap b (List.mem_cons_of_mem a hb)]

/-- **A frame behind a gap is found**, and the scan goes on behind it. -/
theorem scan_gap_frame {gap f : List α} (hgap : ∀ a ∈ gap, F.isStart a = false) (hf : F.Valid f)
    (s : List α) : F.scan (gap ++ f ++ s) = (f :: (F.scan s).1, (F.scan s).2) := by
  obtain ⟨a, g, rfl, ha⟩ := hf.start
  have hd := hf.declared
  have hle := F.headerLen_le hd
  rw [List.append_assoc, F.scan_gap hgap, List.cons_append,
    F.scan_emit ha (by rw [← List.cons_append, List.take_append_of_le_length hle, hd])
      (by simp only [List.length_cons, List.length_append]; omega),
    ← List.cons_append, List.take_left', List.drop_left']
  · rfl
  · rfl

end Framing
